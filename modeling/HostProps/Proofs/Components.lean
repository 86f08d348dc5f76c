import HostProps.Components
import HostProps.Proofs.Erasure
import HostProps.Proofs.ImportBinding

/-!
# Components are found after any Operations

Operations do two things to the body of a module: they change statements, and they put declarations
of arguments between them. `Grown` says so for lists of statements, in the manner of
`List.Sublist`. A changed statement is still the one that it was (`Node.Kept`): it is the same
without what was generated in it, and every declarator in it, at whatever depth, binds the import
that it bound. And declarations of arguments bind no import.

So the components of a module, which are told by what its declarators bind, stay the same.

## Main results

* `Node.declaratorsIn_injected`: the declarators in a tree after injection.
* `Node.Kept.injected`, `Node.Kept.of_widenStatement?`: operations keep statements.
* `Module.grown_evolution`: operations keep statements and declare arguments.
* `Module.components_eq`: components are told by the bindings of declarators.
* `Program.components_run`: runs change neither the components nor what any declarator binds.
-/

namespace HostProps

namespace Node

/-! ### Declarators in a tree -/

mutual

/-- The declarators in a tree, from the outside in and from first to last. -/
def declaratorsIn : Node → List Node
  | mk h ps => (if h.isDeclarator then [mk h ps] else []) ++ declaratorsInParts ps

/-- The declarators in some trees. -/
def declaratorsInParts : List Node → List Node
  | [] => []
  | n :: ns => declaratorsIn n ++ declaratorsInParts ns

end

/-- The declarators in some trees are those in each tree. -/
theorem declaratorsInParts_eq_flatMap (ns : List Node) :
    declaratorsInParts ns = ns.flatMap declaratorsIn := by
  induction ns with
  | nil => rfl
  | cons n ns ih => rw [declaratorsInParts, ih, List.flatMap_cons]

/-- The declarators in a node: itself, if it is one, and those in its parts. -/
theorem declaratorsIn_mk (h : Head) (ps : List Node) :
    (mk h ps).declaratorsIn =
      (if h.isDeclarator then [mk h ps] else []) ++ ps.flatMap declaratorsIn := by
  rw [declaratorsIn, declaratorsInParts_eq_flatMap]

/-- The declarators in a declarator: itself and those in its parts. -/
theorem declaratorsIn_declarator (o : Origin) (ps : List Node) :
    (plain .declarator o ps).declaratorsIn =
      plain .declarator o ps :: ps.flatMap declaratorsIn :=
  declaratorsIn_mk _ _

/-- The declarators in any other node are those in its parts. -/
theorem declaratorsIn_mk_of_not_declarator {h : Head} (hd : h.isDeclarator = false)
    (ps : List Node) : (mk h ps).declaratorsIn = ps.flatMap declaratorsIn := by
  rw [declaratorsIn_mk, hd]
  rfl

/-- Away from declarators, the declarators in a tree are collected from the inside out. -/
theorem compositionalAt_declaratorsIn {h : Head} (hd : h.isDeclarator = false) :
    CompositionalAt declaratorsIn h := by
  intro ps qs heq
  rw [declaratorsIn_mk_of_not_declarator hd, declaratorsIn_mk_of_not_declarator hd,
    List.flatMap_def, List.flatMap_def, heq]

/-! ### Declarators after injection -/

section Injected

variable {components : List String} {properties : List Node}

/-- Properties without declarators add none to an element. -/
theorem declaratorsIn_prependProperties (h : ∀ q ∈ properties, q.declaratorsIn = []) (n : Node) :
    (n.prependProperties properties).declaratorsIn = n.declaratorsIn := by
  have hnone : properties.flatMap declaratorsIn = [] := List.flatMap_eq_nil_iff.2 h
  refine prependProperties_congr (fun o => compositionalAt_declaratorsIn rfl)
    (compositionalAt_declaratorsIn rfl) (compositionalAt_declaratorsIn rfl) ?_ n
  intro o own
  have hlist : (list (properties ++ own)).declaratorsIn = (list own).declaratorsIn := by
    rw [list, list, declaratorsIn_mk_of_not_declarator rfl, declaratorsIn_mk_of_not_declarator rfl,
      List.flatMap_append, hnone, List.nil_append]
  exact compositionalAt_declaratorsIn rfl _ _ (congrArg (fun a => [a]) hlist)

/-- **The declarators after injection** are those before, each changed by itself. -/
theorem declaratorsIn_injected (h : ∀ q ∈ properties, q.declaratorsIn = []) (n : Node) :
    (injected components properties n).declaratorsIn =
      n.declaratorsIn.map (injected components properties) := by
  induction n with
  | mk hd ps ih =>
      have hparts : (ps.map (injected components properties)).flatMap declaratorsIn =
          (ps.flatMap declaratorsIn).map (injected components properties) := by
        rw [List.flatMap_map, List.map_flatMap]
        exact List.flatMap_congr ih
      cases hdecl : hd.isDeclarator with
      | true =>
          have hcall : hd.isCall = false := by
            cases hd with
            | plain form o => cases form <;> first | rfl | cases hdecl
            | _ => rfl
          rw [injected_mk_of_not_call hcall, declaratorsIn_mk, declaratorsIn_mk, hparts, hdecl,
            List.map_append, ← injected_mk_of_not_call hcall]
          rfl
      | false =>
          have hmk : (injected components properties (mk hd ps)).declaratorsIn =
              (mk hd (ps.map (injected components properties))).declaratorsIn := by
            rw [injected_mk]
            split
            · exact declaratorsIn_prependProperties h _
            · rfl
          rw [hmk, declaratorsIn_mk_of_not_declarator hdecl,
            declaratorsIn_mk_of_not_declarator hdecl, hparts]

end Injected

/-! ### Generated nodes hold no declarators -/

/-- There is no declarator in a generated property. -/
theorem IsGenerated.declaratorsIn {n : Node} (h : n.IsGenerated) : n.declaratorsIn = [] := by
  induction h with
  | mk hh _ ih =>
      rw [declaratorsIn_mk_of_not_declarator hh.isDeclarator]
      exact List.flatMap_eq_nil_iff.2 ih

/-- There is no declarator in the properties that widening puts into a pattern. -/
theorem declaratorsIn_exportPairs (o : Origin) (before : List Node) (keys : List String)
    (after : List Node) :
    (plain .objectPattern o [list (before ++ exportPairs keys ++ after)]).declaratorsIn =
      (plain .objectPattern o [list (before ++ after)]).declaratorsIn := by
  have hnone : (exportPairs keys).flatMap declaratorsIn = [] := by
    rw [List.flatMap_eq_nil_iff]
    exact fun q hq => (isGenerated_of_mem_exportPairs hq).declaratorsIn
  have hlist : (list (before ++ exportPairs keys ++ after)).declaratorsIn =
      (list (before ++ after)).declaratorsIn := by
    rw [list, list, declaratorsIn_mk_of_not_declarator rfl, declaratorsIn_mk_of_not_declarator rfl,
      List.flatMap_append, List.flatMap_append, hnone, List.append_nil, List.flatMap_append]
  exact compositionalAt_declaratorsIn rfl _ _ (congrArg (fun a => [a]) hlist)

/-- The declaration of an argument holds one declarator. -/
theorem declaratorsIn_argumentDeclaration (name : String) :
    (argumentDeclaration name).declaratorsIn = [argumentDeclarator name] := by
  rw [argumentDeclaration, argumentDeclarator, generatedProperty]
  split <;> rfl

/-! ### Statements are kept -/

/-- A declarator without what was generated in it, and the import that it binds. -/
def recognised (d : Node) : Node × Option ImportBinding := (d.erase, d.importBinding?)

/-- A statement after some operations is still the one that it was. -/
structure Kept (n n' : Node) : Prop where
  /-- It is the same without what was generated in it. -/
  erase : n'.erase = n.erase
  /-- Its declarators bind what they bound. -/
  declarators : (n'.declarators?.getD []).map recognised = (n.declarators?.getD []).map recognised
  /-- So do all declarators in it, at whatever depth. -/
  declaratorsIn : n'.declaratorsIn.map recognised = n.declaratorsIn.map recognised
  /-- If it declares an argument, then it does so as before. -/
  argument : ∀ name, n = argumentDeclaration name → n' = n

namespace Kept

/-- A statement to which nothing was done is kept. -/
theorem refl (n : Node) : Kept n n := ⟨rfl, rfl, rfl, fun _ _ => rfl⟩

/-- Statements are kept by several operations if each of them keeps them. -/
theorem trans {n₁ n₂ n₃ : Node} (h₁ : Kept n₁ n₂) (h₂ : Kept n₂ n₃) : Kept n₁ n₃ where
  erase := h₂.erase.trans h₁.erase
  declarators := h₂.declarators.trans h₁.declarators
  declaratorsIn := h₂.declaratorsIn.trans h₁.declaratorsIn
  argument name hname := by
    have h := h₁.argument name hname
    exact (h₂.argument name (h.trans hname)).trans h

/-- **Injection keeps statements.** -/
theorem injected (i : Injection) (n : Node) :
    Kept n (Node.injected i.components i.generated n) := by
  have hrecognised : ∀ d, recognised (Node.injected i.components i.generated d) = recognised d :=
    fun d => Prod.ext (erase_injected i d) (importBinding?_injected d)
  refine ⟨erase_injected i n, ?_, ?_, ?_⟩
  · rw [declarators?_injected]
    cases n.declarators? with
    | none => rfl
    | some ds =>
        rw [Option.map_some, Option.getD_some, Option.getD_some, List.map_map]
        exact List.map_congr_left fun d _ => hrecognised d
  · have hnone : ∀ q ∈ i.generated, q.declaratorsIn = [] :=
      fun q hq => (isGenerated_of_mem_generated i hq).declaratorsIn
    rw [declaratorsIn_injected hnone, List.map_map]
    exact List.map_congr_left fun d _ => hrecognised d
  · rintro name rfl
    exact injected_eq_self (elementCount_argumentDeclaration _ name)

end Kept

section Widened

variable {runtimes : List Runtime}

/-- A widened declarator is recognised as before. -/
theorem recognised_of_widenDeclarator? {d d' : Node} {keys : List String}
    (h : d.widenDeclarator? runtimes = some (keys, d')) : d'.recognised = d.recognised :=
  Prod.ext
    (widenDeclarator?_congr (fun _ => compositional_erase _) erase_objectPattern_exportPairs h)
    (importBinding?_of_widenDeclarator? h)

/-- So are the declarators in it. -/
theorem declaratorsIn_of_widenDeclarator? {d d' : Node} {keys : List String}
    (h : d.widenDeclarator? runtimes = some (keys, d')) :
    d'.declaratorsIn.map recognised = d.declaratorsIn.map recognised := by
  have hself := recognised_of_widenDeclarator? h
  obtain ⟨o, patternOrigin, properties, init, rfl, -, rfl, rfl⟩ := widenDeclarator?_eq_some_iff.1 h
  obtain ⟨before, after, hproperties, hwidened⟩ := exists_widenProperties runtimes properties
  have hpattern := declaratorsIn_exportPairs patternOrigin before
    (widenProperties runtimes properties).1 after
  rw [← hwidened, ← hproperties] at hpattern
  rw [declaratorsIn_declarator, declaratorsIn_declarator, List.map_cons, List.map_cons, hself]
  simp only [List.flatMap_cons, hpattern]

/-- **Widening keeps statements.** -/
theorem Kept.of_widenStatement? {n n' : Node} {keys : List String}
    (h : n.widenStatement? runtimes = some (keys, n')) : Kept n n' := by
  refine ⟨erase_of_widenStatement? h, ?_, ?_, ?_⟩
  · obtain ⟨o, kind, ds, ds', rfl, hds, rfl⟩ := widenStatement?_eq_some_iff.1 h
    exact map_of_editFirst? (fun _ _ _ hd => recognised_of_widenDeclarator? hd) hds
  · have hcongr : ∀ hd : Head, hd.isDeclarator = false →
        CompositionalAt (fun n => n.declaratorsIn.map recognised) hd := by
      intro hd hdecl ps qs heq
      simp only [declaratorsIn_mk_of_not_declarator hdecl, List.map_flatMap]
      rw [List.flatMap_def, List.flatMap_def, heq]
    exact widenStatement?_congr (hcongr _ rfl) (fun _ _ => hcongr _ rfl)
      (fun _ _ _ => declaratorsIn_of_widenDeclarator?) h
  · rintro name rfl
    rw [widenStatement?_argumentDeclaration] at h
    cases h

end Widened

end Node

/-! ### Bodies grow -/

/-- The statements of a body after some operations: each of those before is kept, in order, and
declarations of arguments stand between them. -/
inductive Grown : List Node → List Node → Prop
  | nil : Grown [] []
  | keep {n n' : Node} {l l' : List Node} : n.Kept n' → Grown l l' → Grown (n :: l) (n' :: l')
  | declare (name : String) {l l' : List Node} :
      Grown l l' → Grown l (Node.argumentDeclaration name :: l')

namespace Grown

/-- Statements that are each kept. -/
theorem map {f : Node → Node} (hf : ∀ n, Node.Kept n (f n)) (l : List Node) :
    Grown l (l.map f) := by
  induction l with
  | nil => exact .nil
  | cons n l ih => exact .keep (hf n) ih

/-- Statements to which nothing was done. -/
theorem refl (l : List Node) : Grown l l := by
  have h := map Node.Kept.refl l
  rwa [List.map_id'] at h

/-- Declarations of arguments alone. -/
theorem declareAll (names : List String) : Grown [] (names.map Node.argumentDeclaration) := by
  induction names with
  | nil => exact .nil
  | cons name names ih => exact .declare name ih

/-- One list of statements after the other. -/
theorem append {l₁ l₁' l₂ l₂' : List Node} (h₁ : Grown l₁ l₁') (h₂ : Grown l₂ l₂') :
    Grown (l₁ ++ l₂) (l₁' ++ l₂') := by
  induction h₁ with
  | nil => exact h₂
  | keep hn _ ih => exact .keep hn ih
  | declare name _ ih => exact .declare name ih

/-- Some operations after others: what the former declared, the latter keep. -/
theorem trans {l₁ l₂ l₃ : List Node} (h₁ : Grown l₁ l₂) (h₂ : Grown l₂ l₃) : Grown l₁ l₃ := by
  induction h₂ generalizing l₁ with
  | nil => exact h₁
  | keep hn _ ih =>
      -- What the later operations kept was kept or declared by the earlier ones.
      cases h₁ with
      | keep hm hl => exact .keep (hm.trans hn) (ih hl)
      | declare name hl =>
          rw [hn.argument name rfl]
          exact .declare name (ih hl)
  | declare name _ ih => exact .declare name (ih h₁)

end Grown

namespace Module

/-- **Operations keep statements and declare arguments.** -/
theorem grown_evolution : Evolution fun m m' => Grown m.body m'.body where
  refl m := .refl m.body
  trans h₁ h₂ := h₁.trans h₂
  insert names m := by
    obtain ⟨before, names', after, hcut, h⟩ := exists_insertArguments_body names m
    rw [h, hcut.append, List.append_assoc]
    exact (Grown.refl before).append ((Grown.declareAll names').append (.refl after))
  inject i m := by
    rw [injectProperties_eq]
    split
    · exact .refl m.body
    · exact .map (Node.Kept.injected i) m.body
  widen runtimes m := by
    obtain ⟨body, h, rfl | ⟨keys, hbody⟩⟩ := exists_addRuntimeExports_body runtimes m
    · rw [h]
      exact .refl m.body
    · obtain ⟨before, n, n', after, hm, rfl, hn, -⟩ := editFirst?_eq_some_iff.1 hbody
      rw [h, hm]
      exact (Grown.refl before).append (.keep (Node.Kept.of_widenStatement? hn) (.refl after))

end Module

/-! ### Components -/

/-- Is an imported module a component, by its name and its specifier? -/
def ImportBinding.isComponent (b : ImportBinding) : Bool :=
  isComponentName b.name && isScriptSpecifier b.specifier

namespace Findings

/-- The names after an import was judged. -/
theorem names_add (f : Findings) (b : ImportBinding) :
    (f.add b).names = f.names ++ if b.isComponent then [b.name] else [] := by
  rw [add, ImportBinding.isComponent]
  cases isComponentName b.name with
  | false => exact (List.append_nil f.names).symm
  | true =>
      cases isScriptSpecifier b.specifier with
      | false => exact (List.append_nil f.names).symm
      | true => rfl

/-- The names after some declarators were judged: those of the components among what they bind. -/
theorem names_foldl_addDeclarator (ds : List Node) (f : Findings) :
    (ds.foldl addDeclarator f).names =
      f.names ++
        ((ds.filterMap Node.importBinding?).filter ImportBinding.isComponent).map (·.name) := by
  induction ds generalizing f with
  | nil => exact (List.append_nil f.names).symm
  | cons d ds ih =>
      rw [List.foldl_cons, ih, addDeclarator]
      cases hd : d.importBinding? with
      | none => rw [List.filterMap_cons_none hd]
      | some b =>
          rw [List.filterMap_cons_some hd, names_add, List.append_assoc]
          cases hb : b.isComponent with
          | false => rw [List.filter_cons_of_neg (by simp [hb])]; rfl
          | true => rw [List.filter_cons_of_pos hb]; rfl

end Findings

namespace Module

/-- The declarators of the declarations at the top level. -/
def declarators (m : Module) : List Node := m.body.flatMap fun n => (n.declarators?).getD []

/-- **The search for components** is a loop over these declarators. -/
theorem walk_visit_eq_foldl (m : Module) (f : Findings) :
    m.walk Findings.visit f = m.declarators.foldl Findings.addDeclarator f := by
  -- Declarations about modules are passed by, but they have no declarators anyway.
  have hfilter : (m.body.filter (!·.isModuleDeclaration)).flatMap
      (fun n => (n.declarators?).getD []) = m.declarators := by
    rw [declarators]
    induction m.body with
    | nil => rfl
    | cons n ns ih =>
        cases hn : n.isModuleDeclaration with
        | false =>
            rw [List.filter_cons_of_pos (by simp [hn]), List.flatMap_cons, ih, List.flatMap_cons]
        | true =>
            have hvar : n.isVariableDeclaration = false := by
              by_contra hvar
              rw [Node.isModuleDeclaration_of_isVariableDeclaration
                (Bool.of_not_eq_false hvar)] at hn
              cases hn
            rw [List.filter_cons_of_neg (by simp [hn]), ih, List.flatMap_cons,
              Node.declarators?_of_not_isVariableDeclaration hvar]
            rfl
  have hprunes : ∀ f n (place : Place), 0 < place.depth →
      Findings.visit f n place = (f, .skip) := fun f n place hdepth => if_pos hdepth
  have hstep : ∀ f n index, Findings.visit f n ⟨0, index⟩ =
      (((n.declarators?).getD []).foldl Findings.addDeclarator f, .enter) := fun f n index => rfl
  rw [m.walk_fold hprunes hstep, ← List.foldl_flatMap, hfilter]

/-- **Components are told by the bindings of the declarators**: they are the names of the imports
that are components, in order. -/
theorem components_eq (m : Module) :
    m.components.1 =
      ((m.declarators.filterMap Node.importBinding?).filter ImportBinding.isComponent).map
        (·.name) := by
  show (m.walk Findings.visit ⟨[], []⟩).names = _
  rw [m.walk_visit_eq_foldl, Findings.names_foldl_addDeclarator]
  rfl

end Module

/-- The imports that the declarators of a body bind stay the same while it grows. -/
theorem Grown.importBindings {l l' : List Node} (h : Grown l l') :
    (l'.flatMap fun n => (n.declarators?).getD []).filterMap Node.importBinding? =
      (l.flatMap fun n => (n.declarators?).getD []).filterMap Node.importBinding? := by
  induction h with
  | nil => rfl
  | @keep n n' l l' hn _ ih =>
      have hmap := congrArg (List.filterMap Prod.snd) hn.declarators
      rw [List.filterMap_map, List.filterMap_map] at hmap
      rw [List.flatMap_cons, List.flatMap_cons, List.filterMap_append, List.filterMap_append, ih]
      exact congrArg (· ++ _) hmap
  | @declare name l l' _ ih =>
      rw [List.flatMap_cons, Node.declarators?_argumentDeclaration, Option.getD_some,
        List.filterMap_append, ih,
        List.filterMap_cons_none (Node.importBinding?_argumentDeclarator name)]
      rfl

/-- Components stay the same while the body of a module grows. -/
theorem Grown.components {m m' : Module} (h : Grown m.body m'.body) :
    m'.components.1 = m.components.1 := by
  rw [Module.components_eq, Module.components_eq, Module.declarators, Module.declarators,
    h.importBindings]

/-! ### Runs -/

/-- **Runs change neither the components nor what any declarator binds.** Whatever is done to a
document, with any arguments, the same names of components are found in the same order. Its
statements are kept, so each declarator that was there, at the top level or at any depth, binds what
it bound, an import or nothing. All that is added to them are declarations of arguments, and none of
these binds an import, whatever its name. -/
theorem Program.components_run (p : Program) (ops : List Operation) :
    (p.run ops).module.components.1 = p.module.components.1 ∧
      Grown p.module.body (p.run ops).module.body ∧
      ∀ name, ∀ d ∈ (Node.argumentDeclaration name).declaratorsIn, d.importBinding? = none := by
  have hgrown : Grown p.module.body (p.run ops).module.body := Module.grown_evolution.run ops p
  refine ⟨hgrown.components, hgrown, ?_⟩
  intro name d hd
  rw [Node.declaratorsIn_argumentDeclaration, List.mem_singleton] at hd
  rw [hd]
  exact Node.importBinding?_argumentDeclarator name

end HostProps
