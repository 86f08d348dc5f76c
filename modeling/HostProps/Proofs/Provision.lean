import HostProps.Proofs.Bindings

/-!
# What the Pass refers to and what it binds

Injection refers to the local names of runtime keys, and widening has to bind these names. The two
agree on names by agreeing on keys: injection takes the local name of every key, widening that of
every key which the pattern does not have.

A pattern may have a key under a name of its own: `const {jsx: a} = arguments[0];`. Widening looks
at keys only, so it does not add `jsx` again, and then `_jsx` stays unbound unless something else
binds it. And there may be no pattern to widen: the pass looks for one in statements that declare
variables, and steps over declarations that are exported. So each name that injection refers to is
bound if and only if its key was missing in the first pattern of a statement, or the name was bound
already, by whatever declaration, or it is declared as an argument.

## Main results

* `Module.addRuntimeExports_fst`: the keys that widening adds are those missing in the first pattern
  of a statement that takes the first argument apart.
* `Program.mem_boundNames_handOver_iff`: which of the names that the pass refers to are bound.
-/

namespace HostProps

/-! ### The pattern that is widened -/

/-- What one edit finds is what is found first. -/
theorem map_fst_editFirst? {α β : Type} (f : α → Option (β × α)) (l : List α) :
    (editFirst? f l).map Prod.fst = l.findSome? fun a => (f a).map Prod.fst := by
  induction l with
  | nil => rfl
  | cons a l ih =>
      cases ha : f a with
      | some r =>
          obtain ⟨b, a'⟩ := r
          rw [editFirst?_cons_of_some ha, List.findSome?_cons, ha]
          rfl
      | none =>
          rw [editFirst?_cons_of_none ha, List.findSome?_cons, ha, Option.map_map]
          exact ih

/-- A search in parts is a search in what they hold. -/
theorem findSome?_flatMap {α β γ : Type} (f : β → Option γ) (g : α → List β) (l : List α) :
    (l.flatMap g).findSome? f = l.findSome? fun a => (g a).findSome? f := by
  induction l with
  | nil => rfl
  | cons a l ih =>
      rw [List.flatMap_cons, List.findSome?_append, ih, List.findSome?_cons]
      cases (g a).findSome? f <;> rfl

namespace Node

variable (runtimes : List Runtime)

/-- The properties of the pattern with which a declarator takes the first argument apart. -/
def firstArgumentPattern? : Node → Option (List Node)
  | plain .declarator _ [plain .objectPattern _ [mk .sequence properties], init] =>
    if init.isFirstArgument then some properties else none
  | _ => none

/-- The declarators of a declaration of variables that is exported. -/
def exportedDeclarators : Node → List Node
  | plain .exportDeclaration _ [declaration] => (declaration.declarators?).getD []
  | _ => []

/-- Widening adds what is missing in the pattern of a declarator. -/
theorem map_fst_widenDeclarator? (d : Node) :
    (d.widenDeclarator? runtimes).map Prod.fst =
      d.firstArgumentPattern?.map fun properties => (widenProperties runtimes properties).1 := by
  rw [widenDeclarator?.eq_def]
  split
  · rename_i init
    rw [firstArgumentPattern?]
    cases init.isFirstArgument <;> rfl
  · rename_i h
    have hnone : d.firstArgumentPattern? = none := by
      rw [firstArgumentPattern?.eq_def]
      split
      · exact (h _ _ _ _ rfl).elim
      · rfl
    rw [hnone]
    rfl

/-- Widening looks into the declarators of a statement. -/
theorem map_fst_widenStatement? (n : Node) :
    (n.widenStatement? runtimes).map Prod.fst =
      (((n.declarators?).getD []).findSome? firstArgumentPattern?).map fun properties =>
        (widenProperties runtimes properties).1 := by
  have hfirst : ∀ ds : List Node, (widenFirst? runtimes ds).map Prod.fst =
      (ds.findSome? firstArgumentPattern?).map fun properties =>
        (widenProperties runtimes properties).1 := by
    intro ds
    rw [widenFirst?_eq_editFirst?, map_fst_editFirst?, List.map_findSome?]
    exact congrArg (ds.findSome? ·) (funext (map_fst_widenDeclarator? runtimes))
  rw [widenStatement?.eq_def]
  split
  · rename_i ds
    rw [Option.map_map]
    exact hfirst ds
  · rename_i h
    have hnone : ((n.declarators?).getD []).findSome? firstArgumentPattern? = none := by
      rw [declarators?.eq_def]
      split
      · rename_i o kind ds
        obtain ⟨hd, ps⟩ := ds
        cases hd with
        | sequence => exact (h o kind ps rfl).elim
        | _ => rfl
      · rfl
    rw [hnone]
    rfl

end Node

/-- The properties of the first pattern that takes the first argument apart, in the statements of
the body that declare variables. Exported declarations are not among these statements. -/
def Module.firstArgumentPattern? (m : Module) : Option (List Node) :=
  m.declarators.findSome? Node.firstArgumentPattern?

/-- **The keys that widening adds** are those missing in the first pattern that takes the first
argument apart. -/
theorem Module.addRuntimeExports_fst (runtimes : List Runtime) (m : Module) :
    (m.addRuntimeExports runtimes).1 =
      (m.firstArgumentPattern?.map fun properties => (widenProperties runtimes properties).1).getD
        [] := by
  have hpattern : (editFirst? (Node.widenStatement? runtimes) m.body).map Prod.fst =
      m.firstArgumentPattern?.map fun properties => (widenProperties runtimes properties).1 := by
    rw [map_fst_editFirst?, firstArgumentPattern?, declarators, findSome?_flatMap,
      List.map_findSome?]
    exact congrArg (m.body.findSome? ·) (funext (Node.map_fst_widenStatement? runtimes))
  rw [addRuntimeExports_eq, ← hpattern]
  split
  · rename_i hempty
    rw [hpattern, List.isEmpty_iff.1 hempty]
    cases m.firstArgumentPattern? <;> rfl
  · cases editFirst? (Node.widenStatement? runtimes) m.body <;> rfl

/-! ### Keys and their local names -/

/-- The missing keys are those that do not exist. -/
theorem mem_missingKeys_iff {existing keys : List String} {key : String} :
    key ∈ missingKeys existing keys ↔ key ∈ keys ∧ key ∉ existing := by
  induction keys generalizing existing with
  | nil => simp [missingKeys]
  | cons k keys ih =>
      rw [missingKeys]
      by_cases hk : k ∈ existing
      · rw [if_pos (List.contains_iff_mem.2 hk), ih, List.mem_cons]
        constructor
        · rintro ⟨hkeys, hnew⟩
          exact ⟨.inr hkeys, hnew⟩
        · rintro ⟨rfl | hkeys, hnew⟩
          · exact (hnew hk).elim
          · exact ⟨hkeys, hnew⟩
      · rw [if_neg (by simpa using hk), List.mem_cons, ih, List.mem_cons, List.mem_cons]
        constructor
        · rintro (rfl | ⟨hkeys, hnew⟩)
          · exact ⟨.inl rfl, hk⟩
          · exact ⟨.inr hkeys, fun h => hnew (.inr h)⟩
        · rintro ⟨rfl | hkeys, hnew⟩
          · exact .inl rfl
          · by_cases heq : key = k
            · exact .inl heq
            · exact .inr ⟨hkeys, fun h => h.elim heq hnew⟩

namespace Runtime

/-- A runtime gives each of its keys under its local name. -/
theorem mem_pairs_iff {r : Runtime} {pair : String × String} :
    pair ∈ r.pairs ↔ pair.1 ∈ r.keys ∧ pair.2 = runtimeVariable pair.1 := by
  have hpairs : r.pairs = r.keys.map fun key => (key, runtimeVariable key) := by
    cases r <;> decide
  obtain ⟨key, value⟩ := pair
  rw [hpairs, List.mem_map]
  constructor
  · rintro ⟨k, hk, heq⟩
    obtain ⟨rfl, rfl⟩ := Prod.mk.inj heq
    exact ⟨hk, rfl⟩
  · rintro ⟨hk, hvalue⟩
    exact ⟨key, hk, congrArg (Prod.mk key) hvalue.symm⟩

/-- Keys of runtimes that have one local name are one key. -/
theorem runtimeVariable_inj {r s : Runtime} {k l : String} (hk : k ∈ r.keys) (hl : l ∈ s.keys)
    (h : runtimeVariable k = runtimeVariable l) : k = l := by
  have hall : ∀ r s : Runtime, ∀ k ∈ r.keys, ∀ l ∈ s.keys,
      runtimeVariable k = runtimeVariable l → k = l := by
    intro r s
    cases r <;> cases s <;> decide
  exact hall r s k hk l hl h

end Runtime

/-- Keys that are missing in a pattern are bound to their local names when it is widened, and no
other keys are. -/
theorem runtimeVariable_mem_widenProperties_iff (properties : List Node) {runtimes : List Runtime}
    {r : Runtime} {key : String} (hr : r ∈ runtimes) (hkey : key ∈ r.keys) :
    runtimeVariable key ∈ (widenProperties runtimes properties).1.map runtimeVariable ↔
      key ∉ properties.filterMap Node.patternKey? := by
  have hmem : ∀ k, k ∈ (widenProperties runtimes properties).1 ↔
      k ∈ runtimes.flatMap Runtime.keys ∧ k ∉ properties.filterMap Node.patternKey? :=
    fun _ => mem_missingKeys_iff
  rw [List.mem_map]
  constructor
  · rintro ⟨k, hk, heq⟩
    obtain ⟨hkeys, hmissing⟩ := (hmem k).1 hk
    obtain ⟨s, -, hs⟩ := List.mem_flatMap.1 hkeys
    obtain rfl := Runtime.runtimeVariable_inj hs hkey heq
    exact hmissing
  · intro hmissing
    exact ⟨key, (hmem key).2 ⟨List.mem_flatMap.2 ⟨r, hr, hkey⟩, hmissing⟩, rfl⟩

/-- **Which local names widening binds**: those of the keys that are missing in the first pattern of
a statement, and none if there is no such pattern. -/
theorem Module.runtimeVariable_mem_addRuntimeExports_iff (m : Module) {runtimes : List Runtime}
    {r : Runtime} {key : String} (hr : r ∈ runtimes) (hkey : key ∈ r.keys) :
    runtimeVariable key ∈ (m.addRuntimeExports runtimes).1.map runtimeVariable ↔
      ∃ properties, m.firstArgumentPattern? = some properties ∧
        key ∉ properties.filterMap Node.patternKey? := by
  rw [addRuntimeExports_fst]
  cases m.firstArgumentPattern? with
  | none => exact iff_of_false List.not_mem_nil nofun
  | some properties =>
      rw [Option.map_some, Option.getD_some,
        runtimeVariable_mem_widenProperties_iff properties hr hkey]
      simp only [Option.some.injEq, exists_eq_left']

/-- What widening adds to a pattern are keys of runtimes. -/
theorem Module.exists_mem_keys_of_mem_addRuntimeExports {runtimes : List Runtime} {m : Module}
    {key : String} (h : key ∈ (m.addRuntimeExports runtimes).1) : ∃ r ∈ runtimes, key ∈ r.keys := by
  rw [addRuntimeExports_fst] at h
  cases hpattern : m.firstArgumentPattern? with
  | none =>
      rw [hpattern] at h
      cases h
  | some properties =>
      rw [hpattern] at h
      obtain ⟨hkeys, -⟩ := mem_missingKeys_iff.1 h
      exact List.mem_flatMap.1 hkeys

/-! ### The pass -/

namespace Program

/-- **Which of the names that the pass refers to are bound.** Let all properties be those of
runtimes. Then every name that the pass refers to, other than `arguments` in the declarations that
it inserts, is the local name of a key of a runtime. It is bound by a declaration at the top level
of the result, exported or not, if and only if

* some statement at the top level takes the first argument apart, and the first pattern that does so
  lacks this key; an exported declaration is no such statement, and does not count here;
* or the name was bound before by a declaration at the top level, exported or not;
* or it is declared as an argument. -/
theorem mem_boundNames_handOver_iff (o : Options) (p : Program)
    (hsources : ∀ source ∈ o.propertiesToInject.getD [], ∃ r, source = .runtime r) {name : String}
    (hname : p.module.RefersMore (p.handOver o).1.module name) (harguments : name ≠ "arguments") :
    ∃ r key, .runtime r ∈ o.propertiesToInject.getD [] ∧ key ∈ r.keys ∧
      name = runtimeVariable key ∧
      (name ∈ (p.handOver o).1.module.boundNames ↔
        (∃ properties, p.module.firstArgumentPattern? = some properties ∧
          key ∉ properties.filterMap Node.patternKey?) ∨
        name ∈ p.module.boundNames ∨
        name ∈ p.module.declaredArguments o.resolve.1.arguments) := by
  obtain ⟨-, hdeclared⟩ | ⟨-, hproperty⟩ := refersMore_handOver_iff.1 hname
  · exact (harguments hdeclared).elim
  · obtain ⟨pair, hpair, rfl⟩ := List.mem_map.1 hproperty
    obtain ⟨⟨source, hsource, hsourcePair⟩, -⟩ := Options.exists_source_of_mem_resolve hpair
    obtain ⟨r, rfl⟩ := hsources source hsource
    obtain ⟨hkey, hvalue⟩ := Runtime.mem_pairs_iff.1 hsourcePair
    refine ⟨r, pair.1, hsource, hkey, hvalue, ?_⟩
    have hwidened := p.module.runtimeVariable_mem_addRuntimeExports_iff
      (Options.mem_runtimes_resolve_iff.2 hsource) hkey
    rw [← hvalue] at hwidened
    rw [(p.boundNames_handOver o).mem_iff, List.mem_append, List.mem_append, ← hwidened]
    exact (or_comm.trans (or_congr_right or_comm))

/-- The document
`const {jsx: a} = arguments[0]; const {default: A} = await import("./a.js"); _jsx(A, {});`, as it is
written. -/
def aliasesKey : Program where
  path := none
  module :=
    { span := ⟨1, 89⟩
      body :=
        [.mk (.variableDeclaration (.written ⟨1, 31⟩) .const)
          [.list [.plain .declarator (.written ⟨7, 30⟩)
            [.plain .objectPattern (.written ⟨7, 15⟩)
              [.list [.plain .keyValuePattern .generated
                [.mk (.name ⟨8, 11⟩ "jsx") [], .mk (.binding (.written ⟨13, 14⟩) "a") []]]],
            .plain .member (.written ⟨18, 30⟩)
              [.mk (.reference (.written ⟨18, 27⟩) "arguments") [],
                .plain .computed (.written ⟨27, 30⟩)
                  [.mk (.number ⟨28, 29⟩ .zero (some "0")) []]]]]],
        .mk (.variableDeclaration (.written ⟨32, 76⟩) .const)
          [.list [.plain .declarator (.written ⟨38, 75⟩)
            [.plain .objectPattern (.written ⟨38, 50⟩)
              [.list [.plain .keyValuePattern .generated
                [.mk (.name ⟨39, 46⟩ "default") [],
                  .mk (.binding (.written ⟨48, 49⟩) "A") []]]],
            .plain .await (.written ⟨53, 75⟩)
              [.plain .call (.written ⟨59, 75⟩)
                [.mk (.importKeyword ⟨59, 65⟩ "evaluation") [],
                  .list [.mk (.argument none)
                    [.mk (.string ⟨66, 74⟩ "./a.js" (some "\"./a.js\"")) []]]]]]]],
        .plain .expressionStatement (.written ⟨77, 89⟩)
          [.plain .call (.written ⟨77, 88⟩)
            [.mk (.reference (.written ⟨77, 81⟩) "_jsx") [],
              .list [.mk (.argument none) [.mk (.reference (.written ⟨82, 83⟩) "A") []],
                .mk (.argument none) [.plain .object (.written ⟨85, 87⟩) [.list []]]]]]]
      interpreter := none }
  comments := []

/-- Options that ask for the keys of a runtime, and for nothing else. -/
def passesRuntime : Options := ⟨none, some [.runtime .production], none⟩

/-- The document has one component. -/
theorem components_aliasesKey : aliasesKey.module.components.1 = ["A"] := by
  rw [Module.components_eq]
  decide +kernel

/-- The pass refers to the local names of all keys of a runtime, if it changes a call. -/
theorem refersMore_passesRuntime {p : Program}
    (hcount : (p.module.injectProperties
      (passesRuntime.phases p.module.components.1).injection).1 ≠ 0)
    {name : String} (h : name ∈ ["_Fragment", "_jsx", "_jsxs"]) :
    p.module.RefersMore (p.handOver passesRuntime).1.module name := by
  refine refersMore_handOver_iff.2 (.inr ⟨hcount, ?_⟩)
  revert name
  decide +kernel

/-- It refers to these names in this document. -/
theorem refersMore_aliasesKey {name : String} (h : name ∈ ["_Fragment", "_jsx", "_jsxs"]) :
    aliasesKey.module.RefersMore (aliasesKey.handOver passesRuntime).1.module name := by
  refine refersMore_passesRuntime ?_ h
  rw [components_aliasesKey, Module.injectProperties_eq]
  decide +kernel

/-- All sources of properties in these options are runtimes. -/
theorem exists_runtime_passesRuntime :
    ∀ source ∈ passesRuntime.propertiesToInject.getD [], ∃ r, source = .runtime r := by
  intro source hsource
  exact ⟨.production, List.mem_singleton.1 hsource⟩

/-- Of these names `_jsxs` is bound, since the pattern lacks its key. -/
theorem mem_boundNames_handOver_iff_sample :
    (∀ source ∈ passesRuntime.propertiesToInject.getD [], ∃ r, source = .runtime r) ∧
      aliasesKey.module.RefersMore (aliasesKey.handOver passesRuntime).1.module "_jsxs" ∧
      "_jsxs" ≠ "arguments" ∧
      "_jsxs" ∈ (aliasesKey.handOver passesRuntime).1.module.boundNames := by
  have hpattern : aliasesKey.module.firstArgumentPattern? =
      some [.plain .keyValuePattern .generated
        [.mk (.name ⟨8, 11⟩ "jsx") [], .mk (.binding (.written ⟨13, 14⟩) "a") []]] := rfl
  have hsources := exists_runtime_passesRuntime
  have hrefers : aliasesKey.module.RefersMore
      (aliasesKey.handOver passesRuntime).1.module "_jsxs" := refersMore_aliasesKey (by decide)
  have harguments : "_jsxs" ≠ "arguments" := by decide
  refine ⟨hsources, hrefers, harguments, ?_⟩
  obtain ⟨r, key, -, hkey, hname, hbound⟩ :=
    mem_boundNames_handOver_iff passesRuntime aliasesKey hsources hrefers harguments
  have hjsxs : key = "jsxs" :=
    Runtime.runtimeVariable_inj (s := .production) hkey (by decide) hname.symm
  refine hbound.2 (.inl ⟨_, hpattern, ?_⟩)
  rw [hjsxs]
  decide

/-- The document
`export const {b: a} = arguments[0]; const {default: A} = await import("./a.js"); _jsx(A, {});`, as
it is written. -/
def exportsPattern : Program where
  path := none
  module :=
    { span := ⟨1, 94⟩
      body :=
        [.plain .exportDeclaration (.written ⟨1, 36⟩)
          [.mk (.variableDeclaration (.written ⟨8, 36⟩) .const)
            [.list [.plain .declarator (.written ⟨14, 35⟩)
              [.plain .objectPattern (.written ⟨14, 20⟩)
                [.list [.plain .keyValuePattern .generated
                  [.mk (.name ⟨15, 16⟩ "b") [], .mk (.binding (.written ⟨18, 19⟩) "a") []]]],
              .plain .member (.written ⟨23, 35⟩)
                [.mk (.reference (.written ⟨23, 32⟩) "arguments") [],
                  .plain .computed (.written ⟨32, 35⟩)
                    [.mk (.number ⟨33, 34⟩ .zero (some "0")) []]]]]]],
        .mk (.variableDeclaration (.written ⟨37, 81⟩) .const)
          [.list [.plain .declarator (.written ⟨43, 80⟩)
            [.plain .objectPattern (.written ⟨43, 55⟩)
              [.list [.plain .keyValuePattern .generated
                [.mk (.name ⟨44, 51⟩ "default") [],
                  .mk (.binding (.written ⟨53, 54⟩) "A") []]]],
            .plain .await (.written ⟨58, 80⟩)
              [.plain .call (.written ⟨64, 80⟩)
                [.mk (.importKeyword ⟨64, 70⟩ "evaluation") [],
                  .list [.mk (.argument none)
                    [.mk (.string ⟨71, 79⟩ "./a.js" (some "\"./a.js\"")) []]]]]]]],
        .plain .expressionStatement (.written ⟨82, 94⟩)
          [.plain .call (.written ⟨82, 93⟩)
            [.mk (.reference (.written ⟨82, 86⟩) "_jsx") [],
              .list [.mk (.argument none) [.mk (.reference (.written ⟨87, 88⟩) "A") []],
                .mk (.argument none) [.plain .object (.written ⟨90, 92⟩) [.list []]]]]]]
      interpreter := none }
  comments := []

/-- This document has one component, too. -/
theorem components_exportsPattern : exportsPattern.module.components.1 = ["A"] := by
  rw [Module.components_eq]
  decide +kernel

/-- The pass refers to the same names in this document. -/
theorem refersMore_exportsPattern {name : String} (h : name ∈ ["_Fragment", "_jsx", "_jsxs"]) :
    exportsPattern.module.RefersMore (exportsPattern.handOver passesRuntime).1.module name := by
  refine refersMore_passesRuntime ?_ h
  rw [components_exportsPattern, Module.injectProperties_eq]
  decide +kernel

/-- **The pass can refer to a name that nothing binds**: to `_jsx`, in a document that takes `jsx`
out of the first argument under another name, and in one that takes the first argument apart in an
exported declaration. -/
theorem unbound_aliasesKey_exportsPattern :
    passesRuntime.propertiesToInject.getD [] ≠ [] ∧
      (∀ source ∈ passesRuntime.propertiesToInject.getD [], ∃ r, source = .runtime r) ∧
      "_jsx" ≠ "arguments" ∧
      (aliasesKey.module.firstArgumentPattern?.isSome = true ∧
        aliasesKey.module.RefersMore (aliasesKey.handOver passesRuntime).1.module "_jsx" ∧
        "_jsx" ∉ (aliasesKey.handOver passesRuntime).1.module.boundNames) ∧
      (∃ n ∈ exportsPattern.module.body, ∃ d ∈ n.exportedDeclarators,
        d.firstArgumentPattern?.isSome = true) ∧
      exportsPattern.module.RefersMore (exportsPattern.handOver passesRuntime).1.module "_jsx" ∧
      "_jsx" ∉ (exportsPattern.handOver passesRuntime).1.module.boundNames := by
  refine ⟨by decide, exists_runtime_passesRuntime, by decide,
    ⟨rfl, refersMore_aliasesKey (by decide), ?_⟩, ?_, refersMore_exportsPattern (by decide), ?_⟩
  · rw [(aliasesKey.boundNames_handOver passesRuntime).mem_iff, Module.addRuntimeExports_fst]
    decide +kernel
  · exact ⟨_, List.mem_cons_self, _, List.mem_singleton_self _, rfl⟩
  · rw [(exportsPattern.boundNames_handOver passesRuntime).mem_iff, Module.addRuntimeExports_fst]
    decide +kernel

end Program

end HostProps
