import HostProps.Proofs.Provision

/-!
# Arguments are declared in Front of what needs them

What insertion declares has to be there when the imported components of a document are evaluated,
and before the first argument is taken apart. Insertion does not look for either: it goes in front
of the first statement of the body that declares variables. But the phases after it find both
components and patterns that take the first argument apart in such statements alone, so a document
with a component has a place for insertion, and everything that is found stands after it.

Declarations about modules may stand anywhere in between: no phase looks at them. So insertion is
not ahead of all that takes the first argument apart: `export const {b: a} = arguments[0];` stays in
front of what is inserted, if no statement in front of it declares variables.

The phases after insertion do not move its declarations. They commute with it, so what the whole
pass leaves is also what insertion leaves as the last phase (`Program.exists_handOver_insert`), and
the result about insertion alone applies.

## Main results

* `Module.components_eq_flatMap`: components are told statement by statement.
* `Module.declaresAhead_insertArguments`: insertion into a module with components.
* `Program.declaresAhead_handOver`: the same for the pass.
* `Program.not_ahead_exportsPattern`: exported declarations can stand in front.
-/

namespace HostProps

namespace Node

/-- The components that the declarators of a statement bind. -/
def importedComponents (n : Node) : List String :=
  ((((n.declarators?).getD []).filterMap importBinding?).filter
    ImportBinding.isComponent).map (·.name)

/-- Does a declarator take the first argument apart, by a pattern of whatever form? -/
def destructuresFirstArgument (d : Node) : Bool :=
  match d.declarator? with
  | some (pattern, some init) => pattern.binding?.isNone && init.isFirstArgument
  | _ => false

/-- Does a statement need declared arguments to be there? It does if it imports components, or takes
the first argument apart. -/
def needsArguments (n : Node) : Bool :=
  !n.importedComponents.isEmpty || ((n.declarators?).getD []).any destructuresFirstArgument

/-- Only statements that declare variables need arguments. -/
theorem needsArguments_of_not_isVariableDeclaration {n : Node}
    (h : n.isVariableDeclaration = false) : n.needsArguments = false := by
  rw [needsArguments, importedComponents, declarators?_of_not_isVariableDeclaration h]
  rfl

/-- Declarations of arguments need none: they import nothing, and they take nothing apart. -/
theorem needsArguments_argumentDeclaration (name : String) :
    (argumentDeclaration name).needsArguments = false := by
  rw [needsArguments, importedComponents, declarators?_argumentDeclaration, Option.getD_some,
    List.filterMap_cons_none (importBinding?_argumentDeclarator name)]
  rfl

end Node

namespace Module

/-- **Components are told statement by statement.** -/
theorem components_eq_flatMap (m : Module) :
    m.components.1 = m.body.flatMap Node.importedComponents := by
  rw [components_eq, declarators]
  induction m.body with
  | nil => rfl
  | cons n ns ih =>
      rw [List.flatMap_cons, List.filterMap_append, List.filter_append, List.map_append, ih,
        List.flatMap_cons]
      rfl

/-- Some names are declared at an index of the body, in their order and in front of everything that
needs them. -/
structure DeclaresAhead (m : Module) (names : List String) (index : Nat) : Prop where
  /-- Each name is declared in its place. -/
  declared : ∀ k (h : k < names.length),
    m.body[index + k]? = some (Node.argumentDeclaration names[k])
  /-- No statement in front of them declares variables. -/
  first : ∀ (j : Nat) n, m.body[j]? = some n → n.isVariableDeclaration = true → index ≤ j
  /-- What imports components stands after all of these declarations. -/
  components : ∀ (j : Nat) n, m.body[j]? = some n → ∀ c ∈ n.importedComponents,
    index + names.length ≤ j
  /-- So does every statement that takes the first argument apart. -/
  firstArgument : ∀ (j : Nat) n, m.body[j]? = some n → ∀ d ∈ (n.declarators?).getD [],
    d.destructuresFirstArgument = true → index + names.length ≤ j
  /-- And so does every exported declaration of variables, whatever it takes apart, unless it stands
  in front of all statements that declare variables. -/
  exported : ∀ (j : Nat) n, m.body[j]? = some n → n.exportedDeclarators ≠ [] →
    index + names.length ≤ j ∨
      ∀ (k : Nat) n', m.body[k]? = some n' → n'.isVariableDeclaration = true → j < k

/-- What stands around declarations of arguments, and these declarations themselves. -/
theorem placed_around {before after : List Node} {names : List String} {j : Nat} {n : Node}
    (hn : (before ++ names.map Node.argumentDeclaration ++ after)[j]? = some n) :
    j < before.length ∧ n ∈ before ∨
      before.length ≤ j ∧ (∃ name, n = Node.argumentDeclaration name) ∨
      before.length + names.length ≤ j := by
  rw [List.append_assoc] at hn
  obtain hfront | hbehind := Nat.lt_or_ge j before.length
  · rw [List.getElem?_append_left hfront] at hn
    exact .inl ⟨hfront, List.mem_of_getElem? hn⟩
  · obtain hmiddle | hafter := Nat.lt_or_ge j (before.length + names.length)
    · have hlength : j - before.length < (names.map Node.argumentDeclaration).length := by
        rw [List.length_map]
        omega
      rw [List.getElem?_append_right hbehind, List.getElem?_append_left hlength,
        List.getElem?_map] at hn
      obtain ⟨name, -, rfl⟩ := Option.map_eq_some_iff.1 hn
      exact .inr (.inl ⟨hbehind, name, rfl⟩)
    · exact .inr (.inr hafter)

/-- Declarations are ahead if nothing in front of them declares variables. -/
theorem DeclaresAhead.of_append {m : Module} {before after : List Node} {names : List String}
    (hbody : m.body = before ++ names.map Node.argumentDeclaration ++ after)
    (hbefore : ∀ n ∈ before, n.isVariableDeclaration = false) :
    m.DeclaresAhead names before.length := by
  have hfirst : ∀ (j : Nat) n, m.body[j]? = some n → n.isVariableDeclaration = true →
      before.length ≤ j := by
    intro j n hn hvar
    obtain ⟨-, hmem⟩ | ⟨hle, -⟩ | hle := placed_around (hbody ▸ hn)
    · rw [hbefore n hmem] at hvar
      cases hvar
    · exact hle
    · exact Nat.le_of_add_right_le hle
  have hplace : ∀ (j : Nat) n, m.body[j]? = some n → n.needsArguments = true →
      before.length + names.length ≤ j := by
    intro j n hn hneeds
    obtain ⟨-, hmem⟩ | ⟨-, name, rfl⟩ | hle := placed_around (hbody ▸ hn)
    · rw [Node.needsArguments_of_not_isVariableDeclaration (hbefore n hmem)] at hneeds
      cases hneeds
    · rw [Node.needsArguments_argumentDeclaration] at hneeds
      cases hneeds
    · exact hle
  refine ⟨?_, hfirst, ?_, ?_, ?_⟩
  · intro k hk
    have hlength : k < (names.map Node.argumentDeclaration).length := by
      rwa [List.length_map]
    rw [hbody, List.append_assoc, List.getElem?_append_right (Nat.le_add_right _ _),
      Nat.add_sub_cancel_left, List.getElem?_append_left hlength, List.getElem?_map,
      List.getElem?_eq_getElem hk]
    rfl
  · intro j n hn c hc
    refine hplace j n hn ?_
    rw [Node.needsArguments, List.isEmpty_eq_false_iff.2 (List.ne_nil_of_mem hc)]
    rfl
  · intro j n hn d hd hdestructures
    refine hplace j n hn ?_
    rw [Node.needsArguments, List.any_eq_true.2 ⟨d, hd, hdestructures⟩, Bool.or_true]
  · intro j n hn hexported
    obtain ⟨hlt, -⟩ | ⟨-, name, rfl⟩ | hle := placed_around (hbody ▸ hn)
    · exact .inr fun k n' hn' hvar => hlt.trans_le (hfirst k n' hn' hvar)
    · exact absurd rfl hexported
    · exact .inl hle

/-- **Insertion into a module with components** finds a place, and what it declares is ahead of
everything that needs it. -/
theorem declaresAhead_insertArguments {m : Module} (hcomponents : m.components.1 ≠ [])
    {names : List String} (hnames : names ≠ []) (hvalid : names.filter isIdentifierName = names) :
    ∃ index, (m.insertArguments names).1 = some index ∧
      (m.insertArguments names).2.1 = m.insertAt index (names.map Node.argumentDeclaration) ∧
      (m.insertArguments names).2.1.DeclaresAhead names index := by
  obtain ⟨before, after, hcut⟩ := Cut.exists_of_body m.body
  -- A component is bound by a statement, which cannot stand in front of the cut.
  have hafter : after.isEmpty = false := by
    rw [List.isEmpty_eq_false_iff]
    rintro rfl
    rw [components_eq_flatMap, hcut.append, List.append_nil] at hcomponents
    refine hcomponents (List.flatMap_eq_nil_iff.2 fun n hn => ?_)
    have hneeds := Node.needsArguments_of_not_isVariableDeclaration (hcut.before n hn)
    rw [Node.needsArguments, Bool.or_eq_false_iff, Bool.not_eq_false', List.isEmpty_iff] at hneeds
    exact hneeds.1
  have hinserted := insertArguments_of_cut hcut names
  rw [hvalid, hafter, List.isEmpty_eq_false_iff.2 hnames, Bool.or_false,
    if_neg Bool.false_ne_true] at hinserted
  rw [hinserted]
  refine ⟨before.length, rfl, ?_, DeclaresAhead.of_append rfl hcut.before⟩
  rw [insertAt, hcut.append, List.take_left, List.drop_left]

end Module

/-- The arguments that options keep can all be declared. -/
theorem Options.filter_arguments_resolve (o : Options) :
    o.resolve.1.arguments.filter isIdentifierName = o.resolve.1.arguments := by
  rw [arguments_resolve, List.filter_filter]
  simp only [Bool.and_self]

namespace Program

variable (o : Options) (p : Program)

/-- **The pass with insertion as its last phase**: it inserts into a module with the same
components, and at the same index. -/
theorem exists_handOver_insert :
    ∃ m : Module, (p.handOver o).1.module = (m.insertArguments o.resolve.1.arguments).2.1 ∧
      m.components.1 = p.module.components.1 ∧
      (m.insertArguments o.resolve.1.arguments).1 =
        (p.module.insertArguments o.resolve.1.arguments).1 := by
  have horder : [Phase.widening, .injection, .insertion].Perm Phase.all := by decide
  have hwidened := Module.grown_evolution.widen o.resolve.1.runtimes p.module
  have hinjected := Module.grown_evolution.inject (o.phases p.module.components.1).injection
    (p.module.addRuntimeExports o.resolve.1.runtimes).2.1
  refine ⟨_, p.handOver_eq_runAll o horder, (hwidened.trans hinjected).components, ?_⟩
  have hinjection := congrArg (·.1) ((p.module.addRuntimeExports
    o.resolve.1.runtimes).2.1.insertArguments_injectProperties o.resolve.1.arguments
      (o.phases p.module.components.1).injection)
  have hwidening := (p.module.addRuntimeExports_insertArguments o.resolve.1.arguments
    o.resolve.1.runtimes).2.1
  exact hinjection.trans hwidening

/-- **Arguments are available before every imported component.** If a document has components and
the options keep an argument, then insertion finds a place. From there on the arguments are declared
in a row, in front of every statement of the body that imports a component and of every one that
takes the first argument apart: right after insertion, and in what the whole pass leaves. The
components that statements import are those of the document.

An exported declaration of variables, whether or not it takes the first argument apart, stands after
the arguments too, unless it stands in front of every statement that declares variables. -/
theorem declaresAhead_handOver (hcomponents : p.module.components.1 ≠ [])
    (harguments : o.resolve.1.arguments ≠ []) :
    ∃ index, (p.module.insertArguments o.resolve.1.arguments).1 = some index ∧
      (p.module.insertArguments o.resolve.1.arguments).2.1 =
        p.module.insertAt index (o.resolve.1.arguments.map Node.argumentDeclaration) ∧
      (p.module.insertArguments o.resolve.1.arguments).2.1.DeclaresAhead o.resolve.1.arguments
        index ∧
      (p.handOver o).1.module.DeclaresAhead o.resolve.1.arguments index ∧
      (p.handOver o).1.module.body.flatMap Node.importedComponents = p.module.components.1 := by
  have hvalid := o.filter_arguments_resolve
  obtain ⟨index, hindex, hinserted, hahead⟩ :=
    Module.declaresAhead_insertArguments hcomponents harguments hvalid
  obtain ⟨m, hpass, hsame, hplace⟩ := p.exists_handOver_insert o
  obtain ⟨index', hindex', -, hahead'⟩ :=
    Module.declaresAhead_insertArguments (hsame ▸ hcomponents) harguments hvalid
  -- Both insertions are at the same index, so the declarations end up where they were put.
  obtain rfl : index' = index := by
    rw [hplace, hindex] at hindex'
    exact (Option.some.inj hindex').symm
  refine ⟨index', hindex, hinserted, hahead, ?_, ?_⟩
  · rw [hpass]
    exact hahead'
  · rw [← Module.components_eq_flatMap]
    exact (Module.grown_evolution.handOver o.resolve.1 p.module).components

/-- The document that takes `jsx` out of the first argument, and then imports `A`, gets `React`
before both. -/
theorem declaresAhead_handOver_sample :
    aliasesKey.module.components.1 ≠ [] ∧ Options.default.resolve.1.arguments ≠ [] ∧
      ∃ index, (aliasesKey.module.insertArguments Options.default.resolve.1.arguments).1 =
          some index ∧
        (aliasesKey.handOver .default).1.module.DeclaresAhead
          Options.default.resolve.1.arguments index := by
  have hcomponents : aliasesKey.module.components.1 ≠ [] := by
    rw [components_aliasesKey]
    exact List.cons_ne_nil _ _
  have harguments : Options.default.resolve.1.arguments ≠ [] := by decide +kernel
  obtain ⟨index, hindex, -, -, hahead, -⟩ :=
    declaresAhead_handOver .default aliasesKey hcomponents harguments
  exact ⟨hcomponents, harguments, index, hindex, hahead⟩

/-- Options that ask for `React`, and for nothing else. -/
def declaresReact : Options := ⟨some ["React"], none, none⟩

/-- Insertion into the document that exports its pattern goes behind the exported declaration. -/
theorem insertArguments_exportsPattern :
    exportsPattern.module.insertArguments ["React"] =
      (some 1,
        { exportsPattern.module with
          body := exportsPattern.module.body.take 1 ++ [Node.argumentDeclaration "React"] ++
            exportsPattern.module.body.drop 1 },
        [.argumentsInserted 1 ["React"]]) := by
  have hcut : Cut exportsPattern.module.body (exportsPattern.module.body.take 1)
      (exportsPattern.module.body.drop 1) := ⟨rfl, by decide, by decide⟩
  have hvalid : ["React"].filter isIdentifierName = ["React"] := by decide +kernel
  rw [Module.insertArguments_of_cut hcut, hvalid, if_neg (by decide)]
  rfl

/-- **Exported declarations can stand in front of the arguments**: the document that exports its
pattern has a component and gets `React`, but only after it has taken the first argument apart. -/
theorem not_ahead_exportsPattern :
    exportsPattern.module.components.1 = ["A"] ∧ declaresReact.resolve.1.arguments = ["React"] ∧
      (exportsPattern.module.insertArguments declaresReact.resolve.1.arguments).1 = some 1 ∧
      ∃ n d, (exportsPattern.handOver declaresReact).1.module.body[0]? = some n ∧
        d ∈ n.exportedDeclarators ∧ d.destructuresFirstArgument = true ∧
        (exportsPattern.handOver declaresReact).1.module.body[1]? =
          some (Node.argumentDeclaration "React") := by
  have hsettings : declaresReact.resolve.1 = ⟨["React"], [], [], none⟩ := by decide +kernel
  have hpass : ∀ (o : Options) (p : Program),
      (p.handOver o).1.module = (p.module.handOver o.resolve.1).1 := fun _ _ => rfl
  rw [hpass, Module.handOver_fst, hsettings, insertArguments_exportsPattern]
  exact ⟨components_exportsPattern, rfl, rfl, _, _, rfl, List.mem_singleton_self _, by decide, rfl⟩

end Program

end HostProps
