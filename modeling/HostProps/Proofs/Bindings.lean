import HostProps.Proofs.PhaseOrder
import HostProps.Proofs.Variables

/-!
# Variables of a Module

What the operations do to the variables that the declarations at the top level of a module bind, and
to the variables that the module refers to:

* insertion binds the names that it declares, and each declaration refers to `arguments`;
* injection binds nothing, and refers to the values of the injected properties in every call that it
  changes;
* widening binds the local names of the keys that it adds, and refers to nothing.

None of them unbinds anything or takes a reference away, so the pass is told by these three laws.

Insertion does not look at what is bound already. `const React = arguments[0].React;` goes in front
of `const {default: React} = await import("./react.js");` like in front of anything else, and the
module has a name twice. So insertion keeps the bound names distinct in just those modules that bind
none of the names that it declares.

## Main results

* `Module.boundNames_insertArguments`, `Module.boundNames_injectProperties`,
  `Module.boundNames_addRuntimeExports`: bound names after each operation.
* `Program.boundNames_handOver`, `Program.count_references_handOver`: the pass.
* `Program.bindsMore_handOver_iff`, `Program.refersMore_handOver_iff`: what the pass adds.
* `Module.nodup_boundNames_insertArguments`: when insertion keeps bound names distinct.
-/

namespace HostProps

namespace Module

/-- The variables that the declarations at the top level of a module bind, exported ones included,
from first to last. -/
def boundNames (m : Module) : List String := m.body.flatMap Node.boundNames

/-- The uses of variables in a module. -/
def references (m : Module) : List String := m.body.flatMap Node.references

/-- The names that insertion declares: those that can be declared, if there is a declaration of
variables to put them in front of. -/
def declaredArguments (names : List String) (m : Module) : List String :=
  if m.body.any Node.isVariableDeclaration then names.filter isIdentifierName else []

/-- A module binds a variable at its top level in more places than another module. -/
def BindsMore (m m' : Module) (name : String) : Prop :=
  m.boundNames.count name < m'.boundNames.count name

/-- A module refers to a variable in more places than another module. -/
def RefersMore (m m' : Module) (name : String) : Prop :=
  m.references.count name < m'.references.count name

instance (m m' : Module) (name : String) : Decidable (m.BindsMore m' name) :=
  inferInstanceAs (Decidable (_ < _))

instance (m m' : Module) (name : String) : Decidable (m.RefersMore m' name) :=
  inferInstanceAs (Decidable (_ < _))

/-! ### Insertion -/

section Insertion

variable (names : List String) (m : Module)

/-- Only names that can be declared are declared. -/
theorem mem_of_mem_declaredArguments {names : List String} {m : Module} {name : String}
    (h : name ∈ m.declaredArguments names) : name ∈ names ∧ isIdentifierName name = true := by
  rw [declaredArguments] at h
  split at h
  · exact List.mem_filter.1 h
  · cases h

/-- Names that are distinct are declared once each. -/
theorem nodup_declaredArguments {names : List String} (h : names.Nodup) :
    (m.declaredArguments names).Nodup := by
  rw [declaredArguments]
  split
  · exact h.filter _
  · exact List.nodup_nil

/-- The body after insertion: the declarations stand between two parts of it. -/
theorem exists_body_insertArguments :
    ∃ before after, m.body = before ++ after ∧
      (m.insertArguments names).2.1.body =
        before ++ (m.declaredArguments names).map Node.argumentDeclaration ++ after := by
  obtain ⟨before, after, hcut⟩ := Cut.exists_of_body m.body
  refine ⟨before, after, hcut.append, ?_⟩
  have hany : m.body.any Node.isVariableDeclaration = !after.isEmpty := by
    have hbefore : before.any Node.isVariableDeclaration = false := by
      simpa using hcut.before
    rw [hcut.append, List.any_append, hbefore, Bool.false_or]
    cases after with
    | nil => rfl
    | cons n ns => rw [List.any_cons, hcut.after n rfl]; rfl
  rw [insertArguments_of_cut hcut, declaredArguments, hany]
  cases hafter : after.isEmpty with
  | true => simp [hcut.append]
  | false =>
      cases hnames : (names.filter isIdentifierName).isEmpty with
      | true => simp [hcut.append, List.isEmpty_iff.1 hnames]
      | false => simp

/-- **Insertion binds the names that it declares**, beside what was bound. -/
theorem boundNames_insertArguments :
    (m.insertArguments names).2.1.boundNames.Perm (m.declaredArguments names ++ m.boundNames) := by
  obtain ⟨before, after, hbody, hinserted⟩ := m.exists_body_insertArguments names
  have hdeclared : ((m.declaredArguments names).map Node.argumentDeclaration).flatMap
      Node.boundNames = m.declaredArguments names := by
    rw [List.flatMap_map]
    simp only [Node.boundNames_argumentDeclaration, List.flatMap_singleton']
  rw [boundNames, boundNames, hinserted, hbody]
  simp only [List.flatMap_append, hdeclared, ← List.append_assoc]
  exact List.perm_append_comm.append_right _

/-- **Insertion refers to `arguments`** in each declaration, beside what was referred to. -/
theorem count_references_insertArguments (name : String) :
    (m.insertArguments names).2.1.references.count name =
      m.references.count name +
        (List.replicate (m.declaredArguments names).length "arguments").count name := by
  obtain ⟨before, after, hbody, hinserted⟩ := m.exists_body_insertArguments names
  have hdeclared : ((m.declaredArguments names).map Node.argumentDeclaration).flatMap
      Node.references = List.replicate (m.declaredArguments names).length "arguments" := by
    rw [List.flatMap_map]
    simp only [Node.references_argumentDeclaration, ← List.map_eq_flatMap, List.map_const']
  rw [references, references, hinserted, hbody]
  simp only [List.flatMap_append, hdeclared, List.count_append]
  omega

end Insertion

/-! ### Injection -/

section Injection

variable (i : Injection) (m : Module)

/-- **Injection binds nothing.** -/
theorem boundNames_injectProperties : (m.injectProperties i).2.1.boundNames = m.boundNames := by
  rw [injectProperties_eq]
  split
  · rfl
  · simp only [boundNames, List.flatMap_map, Node.boundNames_injected]

/-- **Injection refers to the values of the properties** in every call that it changes, beside what
was referred to. -/
theorem count_references_injectProperties (name : String) :
    (m.injectProperties i).2.1.references.count name =
      m.references.count name +
        (m.injectProperties i).1 * (i.properties.map (·.2)).count name := by
  rw [injectProperties_eq]
  split
  · simp
  · rw [← i.references_generated]
    exact Node.count_flatMap_references_injected m.body name

end Injection

/-! ### Widening -/

section Widening

variable (runtimes : List Runtime) (m : Module)

/-- **Widening binds the local names of the keys that it adds**, beside what was bound. -/
theorem boundNames_addRuntimeExports :
    (m.addRuntimeExports runtimes).2.1.boundNames.Perm
      (m.boundNames ++ (m.addRuntimeExports runtimes).1.map runtimeVariable) := by
  rw [addRuntimeExports_eq]
  split
  · simp
  · cases hedit : editFirst? (Node.widenStatement? runtimes) m.body with
    | none => simp
    | some r =>
        exact flatMap_perm_of_editFirst?
          (fun _ _ _ hn => Node.boundNames_of_widenStatement? hn) hedit

/-- **Widening refers to nothing** beside what was referred to. -/
theorem references_addRuntimeExports :
    (m.addRuntimeExports runtimes).2.1.references = m.references := by
  have hmap : (m.addRuntimeExports runtimes).2.1.body.map Node.references =
      m.body.map Node.references :=
    map_body_addRuntimeExports (fun _ _ _ hn => Node.references_of_widenStatement? hn) m
  rw [references, references, List.flatMap_def, List.flatMap_def, hmap]

end Widening

end Module

/-! ### The pass -/

namespace Program

variable (o : Options) (p : Program)

/-- The pass with its phases in another order: what binds comes before what refers. -/
theorem module_handOver :
    (p.handOver o).1.module =
      (((p.module.insertArguments o.resolve.1.arguments).2.1.addRuntimeExports
        o.resolve.1.runtimes).2.1.injectProperties
          (o.phases p.module.components.1).injection).2.1 := by
  have horder : [Phase.insertion, .widening, .injection].Perm Phase.all := by decide
  rw [p.handOver_eq_runAll o horder]
  rfl

/-- **The pass binds the names that it declares and the local names of the keys that it adds**,
beside what was bound. -/
theorem boundNames_handOver :
    (p.handOver o).1.module.boundNames.Perm
      (p.module.declaredArguments o.resolve.1.arguments ++ p.module.boundNames ++
        (p.module.addRuntimeExports o.resolve.1.runtimes).1.map runtimeVariable) := by
  have hkeys := congrArg (·.1)
    (p.module.addRuntimeExports_insertArguments o.resolve.1.arguments o.resolve.1.runtimes).1
  have hinserted := p.module.boundNames_insertArguments o.resolve.1.arguments
  have hwidened := (p.module.insertArguments
    o.resolve.1.arguments).2.1.boundNames_addRuntimeExports o.resolve.1.runtimes
  rw [module_handOver, Module.boundNames_injectProperties]
  rw [hkeys] at hwidened
  exact hwidened.trans (hinserted.append_right _)

/-- **The pass refers to `arguments`** in each declaration, **and to the values of the properties**
in every call that it changes, beside what was referred to. -/
theorem count_references_handOver (name : String) :
    (p.handOver o).1.module.references.count name =
      p.module.references.count name +
        (List.replicate (p.module.declaredArguments o.resolve.1.arguments).length
          "arguments").count name +
        (p.module.injectProperties (o.phases p.module.components.1).injection).1 *
          (o.resolve.1.properties.map (·.2)).count name := by
  have hcount := Module.injectProperties_report (o.phases p.module.components.1).injection
    ((Module.sum_elementCount_addRuntimeExports (o.phases p.module.components.1).injection
      o.resolve.1.runtimes (p.module.insertArguments o.resolve.1.arguments).2.1).trans
      (p.module.sum_elementCount_insertArguments o.resolve.1.arguments _))
  rw [module_handOver, Module.count_references_injectProperties, hcount.1,
    Module.references_addRuntimeExports, Module.count_references_insertArguments]
  rfl

/-- What the pass binds is declared by it, or is the local name of a key that it adds. -/
theorem bindsMore_handOver_iff {o : Options} {p : Program} {name : String} :
    p.module.BindsMore (p.handOver o).1.module name ↔
      name ∈ p.module.declaredArguments o.resolve.1.arguments ∨
        name ∈ (p.module.addRuntimeExports o.resolve.1.runtimes).1.map runtimeVariable := by
  rw [Module.BindsMore, (p.boundNames_handOver o).count_eq]
  simp only [List.count_append, ← List.count_pos_iff]
  omega

/-- What the pass refers to is `arguments`, in the declarations that it inserts, or the value of a
property, in the calls that it changes. -/
theorem refersMore_handOver_iff {o : Options} {p : Program} {name : String} :
    p.module.RefersMore (p.handOver o).1.module name ↔
      (p.module.declaredArguments o.resolve.1.arguments ≠ [] ∧ name = "arguments") ∨
        (p.module.injectProperties (o.phases p.module.components.1).injection).1 ≠ 0 ∧
          name ∈ o.resolve.1.properties.map (·.2) := by
  have hdeclared : 0 < (List.replicate
      (p.module.declaredArguments o.resolve.1.arguments).length "arguments").count name ↔
        p.module.declaredArguments o.resolve.1.arguments ≠ [] ∧ name = "arguments" := by
    rw [List.count_pos_iff, List.mem_replicate, Ne, List.length_eq_zero_iff]
  have hinjected : 0 < (p.module.injectProperties (o.phases p.module.components.1).injection).1 *
      (o.resolve.1.properties.map (·.2)).count name ↔
        (p.module.injectProperties (o.phases p.module.components.1).injection).1 ≠ 0 ∧
          name ∈ o.resolve.1.properties.map (·.2) := by
    rw [Nat.pos_iff_ne_zero, Nat.mul_ne_zero_iff, ← Nat.pos_iff_ne_zero (n := List.count _ _),
      List.count_pos_iff]
  rw [← hdeclared, ← hinjected, Module.RefersMore, p.count_references_handOver o name]
  omega

end Program

/-! ### Distinct names -/

namespace Module

/-- **Insertion keeps bound names distinct** if and only if none of the names that it declares was
bound: it neither looks for them nor renames them. The same holds for the insertion that options ask
the pass for. -/
theorem nodup_boundNames_insertArguments (m : Module) (hm : m.boundNames.Nodup) :
    (∀ names : List String, names.Nodup →
      ((m.insertArguments names).2.1.boundNames.Nodup ↔
        ∀ name ∈ m.declaredArguments names, name ∉ m.boundNames)) ∧
    ∀ o : Options, (o.argumentsToAdd.getD []).Nodup →
      ((m.insertArguments o.resolve.1.arguments).2.1.boundNames.Nodup ↔
        ∀ name ∈ m.declaredArguments o.resolve.1.arguments, name ∉ m.boundNames) := by
  have hinsert : ∀ names : List String, names.Nodup →
      ((m.insertArguments names).2.1.boundNames.Nodup ↔
        ∀ name ∈ m.declaredArguments names, name ∉ m.boundNames) := by
    intro names hnames
    have hdeclared := m.nodup_declaredArguments hnames
    rw [(m.boundNames_insertArguments names).nodup_iff, List.nodup_append]
    constructor
    · rintro ⟨-, -, hdistinct⟩ name hname hbound
      exact hdistinct name hname name hbound rfl
    · intro hfresh
      refine ⟨hdeclared, hm, ?_⟩
      rintro name hname _ hbound rfl
      exact hfresh name hname hbound
  refine ⟨hinsert, ?_⟩
  intro o ho
  refine hinsert _ ?_
  rw [Options.arguments_resolve]
  exact ho.filter _

/-- The sample binds `a` alone, so declaring `React` in it keeps its names distinct. -/
theorem nodup_boundNames_insertArguments_sample :
    let m := Program.sample.module
    m.boundNames.Nodup ∧ ["React"].Nodup ∧ (Options.default.argumentsToAdd.getD []).Nodup ∧
      (m.insertArguments ["React"]).2.1.boundNames.Nodup ∧
      (m.insertArguments Options.default.resolve.1.arguments).2.1.boundNames.Nodup := by
  intro m
  have hm : m.boundNames.Nodup := by decide
  have hnames : ["React"].Nodup := by decide
  have hdefault : (Options.default.argumentsToAdd.getD []).Nodup := by decide
  obtain ⟨hinsert, hoptions⟩ := m.nodup_boundNames_insertArguments hm
  exact ⟨hm, hnames, hdefault, (hinsert _ hnames).2 (by decide +kernel),
    (hoptions _ hdefault).2 (by decide +kernel)⟩

/-- The module `const {default: React} = await import("./react.js");`, as it is written. -/
def importsReact : Module where
  span := ⟨1, 53⟩
  body :=
    [.mk (.variableDeclaration (.written ⟨1, 53⟩) .const)
      [.list [.plain .declarator (.written ⟨7, 52⟩)
        [.plain .objectPattern (.written ⟨7, 23⟩)
          [.list [.plain .keyValuePattern .generated
            [.mk (.name ⟨8, 15⟩ "default") [], .mk (.binding (.written ⟨17, 22⟩) "React") []]]],
        .plain .await (.written ⟨26, 52⟩)
          [.plain .call (.written ⟨32, 52⟩)
            [.mk (.importKeyword ⟨32, 38⟩ "evaluation") [],
              .list [.mk (.argument none)
                [.mk (.string ⟨39, 51⟩ "./react.js" (some "\"./react.js\"")) []]]]]]]]]
  interpreter := none

/-- **Insertion can declare a name twice**: it declares `React` in a module that imports it. -/
theorem not_nodup_boundNames_importsReact :
    importsReact.boundNames.Nodup ∧ ["React"].Nodup ∧
      ¬ (importsReact.insertArguments ["React"]).2.1.boundNames.Nodup := by
  refine ⟨by decide, by decide, ?_⟩
  rw [(importsReact.boundNames_insertArguments ["React"]).nodup_iff]
  decide +kernel

end Module

end HostProps
