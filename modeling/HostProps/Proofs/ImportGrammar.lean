import HostProps.Proofs.Components
import HostProps.Proofs.Parentheses

/-!
# The Grammar of Imported Components

Which declarators bind an import is said here once more, as a grammar: `Node.BindsImport` has a rule
for each of the four shapes, and a rule asks for a pattern, for an initialiser and for the specifier
that the source of the import names. The recognisers of `ImportBinding` accept just that.

The recognisers are tried one after the other, and the first that fits wins. That order does not
matter: the two forms of patterns exclude each other, and so do the two forms of initialisers, so
a declarator has at most one shape (`ImportShape.match?_unique`).

Which of these imports are components is a matter of two texts (`ImportBinding.NamesComponent`), and
the components of a module are found by one loop over the declarators of its body
(`CollectsComponents`). The walk that finds them also visits the statements right below the top
level. It collects nothing there.

## Main results

* `Node.destructuredDefault?_eq_some_iff`, `Node.awaitedImportSource?_eq_some_iff`,
  `Node.defaultMemberSource?_eq_some_iff`, `Node.specifier?_eq_some_iff`: the parts of the grammar.
* `Node.importBinding?_eq_some_iff`: recognised declarators are those of the grammar.
* `Module.components_eq_iff_collects`: components are what the loop collects.
-/

namespace HostProps

namespace Node

/-! ### The grammar -/

/-- The pattern `name`. -/
inductive IsVariable : Node → String → Prop
  | binding (o : Origin) (name : String) (ps : List Node) :
      IsVariable (mk (.binding o name) ps) name

/-- The key `key` or `"key"`. -/
inductive IsStaticKey : Node → String → Prop
  | name (s : Span) (key : String) (ps : List Node) : IsStaticKey (mk (.name s key) ps) key
  | string (s : Span) (key : String) (raw : Option String) (ps : List Node) :
      IsStaticKey (mk (.string s key raw) ps) key

/-- The pattern `{default: name, …}`, with any properties after the first. -/
inductive TakesDefault : Node → String → Prop
  | pattern (o pair : Origin) {key value : Node} {name : String} (others : List Node) :
      key.IsStaticKey "default" → value.IsVariable name →
      TakesDefault (plain .objectPattern o
        [list (plain .keyValuePattern pair [key, value] :: others)]) name

/-- The callee `import`. -/
def IsImport (callee : Node) : Prop :=
  ∃ s phase ps, callee.UpToParens (mk (.importKeyword s phase) ps)

/-- The callee `super`. -/
def IsSuper (callee : Node) : Prop :=
  ∃ o ps, callee.UpToParens (plain .super o ps)

/-- A call, up to parentheses, with a callee and a first argument that is not spread. -/
inductive Calls : Node → Node → Node → Prop
  | call {n callee argument : Node} (o : Origin) (others : List Node) :
      n.UpToParens (plain .call o [callee, list (mk (.argument none) [argument] :: others)]) →
      Calls n callee argument

/-- The expression `await import(source, …)`, up to parentheses. -/
inductive AwaitsImport : Node → Node → Prop
  | await {n call callee source : Node} (o : Origin) :
      n.UpToParens (plain .await o [call]) → call.Calls callee source → callee.IsImport →
      AwaitsImport n source

/-- The expression `(await import(source, …)).default`, up to parentheses. -/
inductive AwaitsDefault : Node → Node → Prop
  | member {n object source : Node} (o : Origin) (s : Span) (ps : List Node) :
      n.UpToParens (plain .member o [object, mk (.name s "default") ps]) →
      object.AwaitsImport source → AwaitsDefault n source

/-- The source of an import names a specifier: it is the string, or a call with the string as its
first argument. -/
inductive NamesSpecifier : Node → String → Prop
  | string {source : Node} {specifier : String} :
      source.IsString specifier → NamesSpecifier source specifier
  | call {source callee argument : Node} {specifier : String} :
      source.Calls callee argument → ¬ callee.IsImport → ¬ callee.IsSuper →
      argument.IsString specifier → NamesSpecifier source specifier

/-- **The grammar of declarators that bind an import**: a pattern in one of two forms, and an
initialiser in one of two forms. -/
inductive BindsImport : Node → ImportBinding → Prop
  | destructuredDefaultMember {pattern init source : Node} {name specifier : String} (o : Origin) :
      pattern.TakesDefault name → init.AwaitsDefault source → source.NamesSpecifier specifier →
      BindsImport (plain .declarator o [pattern, init])
        ⟨.destructuredDefaultMember, name, specifier⟩
  | defaultMember {pattern init source : Node} {name specifier : String} (o : Origin) :
      pattern.IsVariable name → init.AwaitsDefault source → source.NamesSpecifier specifier →
      BindsImport (plain .declarator o [pattern, init]) ⟨.defaultMember, name, specifier⟩
  | destructuredDefault {pattern init source : Node} {name specifier : String} (o : Origin) :
      pattern.TakesDefault name → init.AwaitsImport source → source.NamesSpecifier specifier →
      BindsImport (plain .declarator o [pattern, init]) ⟨.destructuredDefault, name, specifier⟩
  | wholeModule {pattern init source : Node} {name specifier : String} (o : Origin) :
      pattern.IsVariable name → init.AwaitsImport source → source.NamesSpecifier specifier →
      BindsImport (plain .declarator o [pattern, init]) ⟨.wholeModule, name, specifier⟩

/-! ### Patterns -/

/-- Patterns that consist of a variable. -/
theorem binding?_eq_some_iff {n : Node} {name : String} :
    n.binding? = some name ↔ n.IsVariable name := by
  constructor
  · intro h
    rw [binding?.eq_def] at h
    split at h
    · rename_i o v ps
      obtain rfl := Option.some.inj h
      exact .binding o v ps
    · cases h
  · rintro ⟨o, name, ps⟩
    rfl

/-- Keys that are names or strings. -/
theorem staticKey?_eq_some_iff {n : Node} {key : String} :
    n.staticKey? = some key ↔ n.IsStaticKey key := by
  constructor
  · intro h
    rw [staticKey?.eq_def] at h
    split at h
    · rename_i s k ps
      obtain rfl := Option.some.inj h
      exact .name s k ps
    · rename_i s k raw ps
      obtain rfl := Option.some.inj h
      exact .string s k raw ps
    · cases h
  · rintro (⟨s, key, ps⟩ | ⟨s, key, raw, ps⟩) <;> rfl

/-- A part that is a list with something in front. -/
theorem eq_list_of_items_eq_cons {n p : Node} {ps : List Node} (h : n.items = p :: ps) :
    n = list (p :: ps) := by
  rw [items.eq_def] at h
  split at h
  · rw [h]
    rfl
  · cases h

/-- **Patterns of objects that take `default` first.** -/
theorem destructuredDefault?_eq_some_iff {n : Node} {name : String} :
    n.destructuredDefault? = some name ↔ n.TakesDefault name := by
  constructor
  · intro h
    rw [destructuredDefault?.eq_def] at h
    split at h
    · rename_i o properties
      split at h
      · rename_i pair key value others hitems
        split at h
        · rename_i hkey
          rw [eq_list_of_items_eq_cons hitems]
          exact .pattern o pair others (staticKey?_eq_some_iff.1 hkey) (binding?_eq_some_iff.1 h)
        · cases h
      · cases h
    · cases h
  · rintro ⟨o, pair, others, hkey, hvalue⟩
    exact (if_pos (staticKey?_eq_some_iff.2 hkey)).trans (binding?_eq_some_iff.2 hvalue)

/-! ### Initialisers -/

/-- The first argument of some arguments, if it is not spread. -/
theorem firstArgument?_eq_some_iff {arguments argument : Node} :
    firstArgument? arguments.items = some argument ↔
      ∃ others, arguments = list (mk (.argument none) [argument] :: others) := by
  constructor
  · intro h
    rw [firstArgument?.eq_def] at h
    split at h
    · rename_i e others hitems
      obtain rfl := Option.some.inj h
      exact ⟨others, eq_list_of_items_eq_cons hitems⟩
    · cases h
  · rintro ⟨others, rfl⟩
    rfl

/-- What `import(x)` imports. -/
theorem importSource?_eq_some_iff {n source : Node} :
    n.importSource? = some source ↔ ∃ callee, n.Calls callee source ∧ callee.IsImport := by
  constructor
  · intro h
    rw [importSource?.eq_def] at h
    split at h
    · rename_i o callee arguments hn
      split at h
      · rename_i s phase ps hcallee
        obtain ⟨others, rfl⟩ := firstArgument?_eq_some_iff.1 h
        exact ⟨callee, .call o others ((upToParens_iff rfl).2 hn),
          s, phase, ps, (upToParens_iff rfl).2 hcallee⟩
      · cases h
    · cases h
  · rintro ⟨callee, ⟨o, others, hn⟩, s, phase, ps, hcallee⟩
    rw [importSource?.eq_def, (upToParens_iff rfl).1 hn]
    simp only [(upToParens_iff rfl).1 hcallee]
    rfl

/-- **What `await import(x)` imports.** -/
theorem awaitedImportSource?_eq_some_iff {n source : Node} :
    n.awaitedImportSource? = some source ↔ n.AwaitsImport source := by
  constructor
  · intro h
    rw [awaitedImportSource?.eq_def] at h
    split at h
    · rename_i o call hn
      obtain ⟨callee, hcall, hcallee⟩ := importSource?_eq_some_iff.1 h
      exact .await o ((upToParens_iff rfl).2 hn) hcall hcallee
    · cases h
  · rintro ⟨o, hn, hcall, hcallee⟩
    rw [awaitedImportSource?.eq_def, (upToParens_iff rfl).1 hn]
    exact importSource?_eq_some_iff.2 ⟨_, hcall, hcallee⟩

/-- **What `(await import(x)).default` imports.** -/
theorem defaultMemberSource?_eq_some_iff {n source : Node} :
    n.defaultMemberSource? = some source ↔ n.AwaitsDefault source := by
  constructor
  · intro h
    rw [defaultMemberSource?.eq_def] at h
    split at h
    · rename_i o object s ps hn
      exact .member o s ps ((upToParens_iff rfl).2 hn) (awaitedImportSource?_eq_some_iff.1 h)
    · cases h
  · rintro ⟨o, s, ps, hn, hobject⟩
    rw [defaultMemberSource?.eq_def, (upToParens_iff rfl).1 hn]
    exact awaitedImportSource?_eq_some_iff.2 hobject

/-- **The specifier that a source names.** -/
theorem specifier?_eq_some_iff {n : Node} {specifier : String} :
    n.specifier? = some specifier ↔ n.NamesSpecifier specifier := by
  constructor
  · intro h
    rw [specifier?.eq_def] at h
    split at h
    · rename_i o callee arguments hn
      split at h
      · cases h
      · cases h
      · rename_i himport hsuper
        obtain ⟨argument, hargument, hstring⟩ := Option.bind_eq_some_iff.1 h
        obtain ⟨others, rfl⟩ := firstArgument?_eq_some_iff.1 hargument
        refine .call (.call o others ((upToParens_iff rfl).2 hn)) ?_ ?_
          (string?_eq_some_iff.1 hstring)
        · rintro ⟨s, phase, ps, hcallee⟩
          exact himport s phase ps ((upToParens_iff rfl).1 hcallee)
        · rintro ⟨o, ps, hcallee⟩
          exact hsuper o ps ((upToParens_iff rfl).1 hcallee)
    · -- No call, so it has to be the string itself.
      obtain ⟨s, raw, ps, hstring⟩ := string?_eq_some_iff.1 h
      exact .string ⟨s, raw, ps, n.upToParens_unwrapParens.trans hstring⟩
  · rintro (⟨s, raw, ps, hn⟩ | ⟨⟨o, others, hn⟩, himport, hsuper, hargument⟩)
    · rw [specifier?.eq_def, (upToParens_iff rfl).1 hn]
      rfl
    · rw [specifier?.eq_def, (upToParens_iff rfl).1 hn]
      dsimp only [plain]
      split
      · rename_i s phase ps hcallee
        exact (himport ⟨s, phase, ps, (upToParens_iff rfl).2 hcallee⟩).elim
      · rename_i o ps hcallee
        exact (hsuper ⟨o, ps, (upToParens_iff rfl).2 hcallee⟩).elim
      · exact string?_eq_some_iff.2 hargument

/-! ### Declarators -/

/-- Declarators with an initialiser. -/
theorem declarator?_eq_some_iff {d pattern init : Node} :
    d.declarator? = some (pattern, some init) ↔
      ∃ o, d = plain .declarator o [pattern, init] ∧ init.isAbsent = false := by
  constructor
  · intro h
    rw [declarator?.eq_def] at h
    split at h
    · rename_i o p i
      obtain ⟨rfl, hinit⟩ := Prod.mk.inj (Option.some.inj h)
      split at hinit
      · cases hinit
      · rename_i habsent
        obtain rfl := Option.some.inj hinit
        exact ⟨o, rfl, Bool.eq_false_iff.2 habsent⟩
    · cases h
  · rintro ⟨o, rfl, habsent⟩
    show some (pattern, if init.isAbsent then none else some init) = _
    rw [habsent]
    rfl

end Node

namespace ImportShape

variable {pattern init source : Node} {name : String} {b : ImportBinding} {s t : ImportShape}

/-- Has this shape a pattern of an object? -/
def isDestructured : ImportShape → Bool
  | destructuredDefaultMember | destructuredDefault => true
  | defaultMember | .wholeModule => false

/-- Has this shape a member as its initialiser? -/
def isMember : ImportShape → Bool
  | destructuredDefaultMember | defaultMember => true
  | destructuredDefault | .wholeModule => false

/-- A shape is a form of patterns with a form of initialisers. -/
theorem eq_of_forms (hpattern : s.isDestructured = t.isDestructured)
    (hinit : s.isMember = t.isMember) : s = t := by
  cases s <;> cases t <;> simp_all only [isDestructured, isMember, reduceCtorEq]

/-- A pattern is of one form: if it is a variable, it takes nothing out of an object. -/
theorem isDestructured_eq (h : s.boundName? pattern = some name) :
    s.isDestructured = pattern.binding?.isNone := by
  cases s with
  | destructuredDefaultMember | destructuredDefault =>
      obtain ⟨o, pair, others, -, -⟩ := Node.destructuredDefault?_eq_some_iff.1 h
      rfl
  | defaultMember | wholeModule =>
      have hbinding : pattern.binding? = some name := h
      rw [hbinding]
      rfl

/-- An initialiser is of one form: if it awaits an import, it is no member of something. -/
theorem isMember_eq (h : s.source? init = some source) :
    s.isMember = init.awaitedImportSource?.isNone := by
  cases s with
  | destructuredDefaultMember | defaultMember =>
      obtain ⟨o, span, ps, hn, -⟩ := Node.defaultMemberSource?_eq_some_iff.1 h
      have hawaited : init.awaitedImportSource? = none := by
        rw [Node.awaitedImportSource?.eq_def, (Node.upToParens_iff rfl).1 hn]
      rw [hawaited]
      rfl
  | destructuredDefault | wholeModule =>
      have hawaited : init.awaitedImportSource? = some source := h
      rw [hawaited]
      rfl

/-- A declarator has a shape if its pattern and its initialiser have the forms of the shape, and the
source names a specifier. -/
theorem match?_eq_some_iff :
    s.match? pattern init = some b ↔
      s = b.shape ∧ s.boundName? pattern = some b.name ∧
        ∃ source, s.source? init = some source ∧ source.specifier? = some b.specifier := by
  simp only [match?, bind, Option.bind_eq_some_iff, pure, Option.some.injEq]
  constructor
  · rintro ⟨name, hname, source, hsource, specifier, hspecifier, rfl⟩
    exact ⟨rfl, hname, source, hsource, hspecifier⟩
  · rintro ⟨rfl, hname, source, hsource, hspecifier⟩
    exact ⟨b.name, hname, source, hsource, b.specifier, hspecifier, rfl⟩

/-- **A declarator has at most one shape.** -/
theorem match?_unique {b' : ImportBinding} (hs : s.match? pattern init = some b)
    (ht : t.match? pattern init = some b') : s = t := by
  obtain ⟨-, hsName, source, hsSource, -⟩ := match?_eq_some_iff.1 hs
  obtain ⟨-, htName, source', htSource, -⟩ := match?_eq_some_iff.1 ht
  exact eq_of_forms ((isDestructured_eq hsName).trans (isDestructured_eq htName).symm)
    ((isMember_eq hsSource).trans (isMember_eq htSource).symm)

/-- So the order in which the shapes are tried makes no difference. -/
theorem findSome?_match?_eq_some_iff :
    all.findSome? (·.match? pattern init) = some b ↔ b.shape.match? pattern init = some b := by
  constructor
  · intro h
    obtain ⟨s, -, hs⟩ := List.exists_of_findSome?_eq_some h
    obtain ⟨rfl, -⟩ := match?_eq_some_iff.1 hs
    exact hs
  · intro h
    have hall : b.shape ∈ all := by cases b.shape <;> decide
    cases hfound : all.findSome? (·.match? pattern init) with
    | none =>
        rw [List.findSome?_eq_none_iff.1 hfound _ hall] at h
        cases h
    | some b' =>
        obtain ⟨s, -, hs⟩ := List.exists_of_findSome?_eq_some hfound
        obtain rfl := match?_unique hs h
        exact hs.symm.trans h

/-- Where something is imported, there is an initialiser. -/
theorem isAbsent_of_source? (h : s.source? init = some source) : init.isAbsent = false := by
  rw [Node.isAbsent.eq_def]
  split
  · cases s <;> cases h
  · rfl

end ImportShape

/-- A declarator binds an import if its pattern and its initialiser have the forms of one of the
shapes, and the source names a specifier. -/
theorem Node.importBinding?_eq_some_iff_exists {d : Node} {b : ImportBinding} :
    d.importBinding? = some b ↔
      ∃ o pattern init source, d = plain .declarator o [pattern, init] ∧
        b.shape.boundName? pattern = some b.name ∧ b.shape.source? init = some source ∧
          source.specifier? = some b.specifier := by
  constructor
  · intro h
    rw [importBinding?.eq_def] at h
    split at h
    · rename_i pattern init hd
      obtain ⟨o, rfl, -⟩ := declarator?_eq_some_iff.1 hd
      obtain ⟨-, hname, source, hsource, hspecifier⟩ := ImportShape.match?_eq_some_iff.1
        (ImportShape.findSome?_match?_eq_some_iff.1 h)
      exact ⟨o, pattern, init, source, rfl, hname, hsource, hspecifier⟩
    · cases h
  · rintro ⟨o, pattern, init, source, rfl, hname, hsource, hspecifier⟩
    have hmatch := ImportShape.match?_eq_some_iff.2 ⟨rfl, hname, source, hsource, hspecifier⟩
    rw [importBinding?.eq_def, declarator?_eq_some_iff.2
      ⟨o, rfl, ImportShape.isAbsent_of_source? hsource⟩]
    exact ImportShape.findSome?_match?_eq_some_iff.2 hmatch

/-- **Recognised declarators are those of the grammar.** -/
theorem Node.importBinding?_eq_some_iff {d : Node} {b : ImportBinding} :
    d.importBinding? = some b ↔ d.BindsImport b := by
  rw [importBinding?_eq_some_iff_exists]
  constructor
  · rintro ⟨o, pattern, init, source, rfl, hname, hsource, hspecifier⟩
    obtain ⟨shape, name, specifier⟩ := b
    have hspecifier := specifier?_eq_some_iff.1 hspecifier
    cases shape with
    | destructuredDefaultMember =>
        exact .destructuredDefaultMember o (destructuredDefault?_eq_some_iff.1 hname)
          (defaultMemberSource?_eq_some_iff.1 hsource) hspecifier
    | defaultMember =>
        exact .defaultMember o (binding?_eq_some_iff.1 hname)
          (defaultMemberSource?_eq_some_iff.1 hsource) hspecifier
    | destructuredDefault =>
        exact .destructuredDefault o (destructuredDefault?_eq_some_iff.1 hname)
          (awaitedImportSource?_eq_some_iff.1 hsource) hspecifier
    | wholeModule =>
        exact .wholeModule o (binding?_eq_some_iff.1 hname)
          (awaitedImportSource?_eq_some_iff.1 hsource) hspecifier
  · rintro (⟨o, hpattern, hinit, hsource⟩ | ⟨o, hpattern, hinit, hsource⟩ |
      ⟨o, hpattern, hinit, hsource⟩ | ⟨o, hpattern, hinit, hsource⟩)
    · exact ⟨o, _, _, _, rfl, destructuredDefault?_eq_some_iff.2 hpattern,
        defaultMemberSource?_eq_some_iff.2 hinit, specifier?_eq_some_iff.2 hsource⟩
    · exact ⟨o, _, _, _, rfl, binding?_eq_some_iff.2 hpattern,
        defaultMemberSource?_eq_some_iff.2 hinit, specifier?_eq_some_iff.2 hsource⟩
    · exact ⟨o, _, _, _, rfl, destructuredDefault?_eq_some_iff.2 hpattern,
        awaitedImportSource?_eq_some_iff.2 hinit, specifier?_eq_some_iff.2 hsource⟩
    · exact ⟨o, _, _, _, rfl, binding?_eq_some_iff.2 hpattern,
        awaitedImportSource?_eq_some_iff.2 hinit, specifier?_eq_some_iff.2 hsource⟩

/-! ### Components -/

/-- An import is a component by what it is called and by what it is imported from. -/
structure ImportBinding.NamesComponent (b : ImportBinding) : Prop where
  /-- The local name starts with a capital letter of the Latin alphabet, or with an underscore. -/
  name : ∃ c rest, b.name.toList = c :: rest ∧ ('A' ≤ c ∧ c ≤ 'Z' ∨ c = '_')
  /-- The specifier ends like the name of a file with a script. -/
  specifier : ∃ ending ∈ [".js", ".mjs", ".cjs", ".jsx"], ending.toList <:+ b.specifier.toList

/-- The imports that are judged to be components are those. -/
theorem ImportBinding.isComponent_iff {b : ImportBinding} :
    b.isComponent = true ↔ b.NamesComponent := by
  have hname : isComponentName b.name = true ↔
      ∃ c rest, b.name.toList = c :: rest ∧ ('A' ≤ c ∧ c ≤ 'Z' ∨ c = '_') := by
    rw [isComponentName]
    cases b.name.toList with
    | nil => simp
    | cons c rest => simp
  have hspecifier : isScriptSpecifier b.specifier = true ↔
      ∃ ending ∈ [".js", ".mjs", ".cjs", ".jsx"], ending.toList <:+ b.specifier.toList := by
    rw [isScriptSpecifier, List.any_eq_true]
    simp only [List.isSuffixOf_iff_suffix]
    rfl
  rw [isComponent, Bool.and_eq_true, hname, hspecifier]
  constructor
  · rintro ⟨h₁, h₂⟩
    exact ⟨h₁, h₂⟩
  · rintro ⟨h₁, h₂⟩
    exact ⟨h₁, h₂⟩

/-- **The loop over declarators**: the names of the components that they bind, in order. A
declarator that binds no import, or none that is a component, is passed by. -/
inductive CollectsComponents : List Node → List String → Prop
  | nil : CollectsComponents [] []
  | keep {d : Node} {ds : List Node} {b : ImportBinding} {names : List String} :
      d.BindsImport b → b.NamesComponent → CollectsComponents ds names →
      CollectsComponents (d :: ds) (b.name :: names)
  | pass {d : Node} {ds : List Node} {names : List String} :
      (∀ b, d.BindsImport b → ¬ b.NamesComponent) → CollectsComponents ds names →
      CollectsComponents (d :: ds) names

namespace CollectsComponents

/-- What the loop collects is told by what the declarators bind. -/
theorem names_eq {ds : List Node} {names : List String} (h : CollectsComponents ds names) :
    names = ((ds.filterMap Node.importBinding?).filter ImportBinding.isComponent).map (·.name) := by
  induction h with
  | nil => rfl
  | keep hd hb _ ih =>
      rw [List.filterMap_cons_some (Node.importBinding?_eq_some_iff.2 hd),
        List.filter_cons_of_pos (ImportBinding.isComponent_iff.2 hb), List.map_cons, ← ih]
  | @pass d ds names hnone _ ih =>
      cases hd : d.importBinding? with
      | none => rw [List.filterMap_cons_none hd, ih]
      | some b =>
          have hb := hnone b (Node.importBinding?_eq_some_iff.1 hd)
          rw [List.filterMap_cons_some hd,
            List.filter_cons_of_neg fun h => hb (ImportBinding.isComponent_iff.1 h), ih]

/-- The loop collects something from all declarators. -/
theorem exists_names (ds : List Node) : ∃ names, CollectsComponents ds names := by
  induction ds with
  | nil => exact ⟨[], .nil⟩
  | cons d ds ih =>
      obtain ⟨names, hnames⟩ := ih
      by_cases hd : ∃ b, d.BindsImport b ∧ b.NamesComponent
      · obtain ⟨b, hbinds, hb⟩ := hd
        exact ⟨b.name :: names, .keep hbinds hb hnames⟩
      · exact ⟨names, .pass (fun b hbinds hb => hd ⟨b, hbinds, hb⟩) hnames⟩

end CollectsComponents

/-- **Components are what the loop collects** from the declarators of the declarations in the body
of a module, and from nothing else. What a declarator binds, for the loop and wherever else it is
asked for, is what the grammar says. -/
theorem Module.components_eq_iff_collects (m : Module) :
    (∀ names, m.components.1 = names ↔ CollectsComponents m.declarators names) ∧
      ∀ d b, Node.importBinding? d = some b ↔ d.BindsImport b := by
  refine ⟨?_, fun d b => Node.importBinding?_eq_some_iff⟩
  intro names
  rw [m.components_eq]
  constructor
  · rintro rfl
    obtain ⟨names, hnames⟩ := CollectsComponents.exists_names m.declarators
    rw [← hnames.names_eq]
    exact hnames
  · intro h
    exact h.names_eq.symm

end HostProps
