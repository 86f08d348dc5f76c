import HostProps.Proofs.ImportGrammar
import HostProps.Proofs.Occurrences
import HostProps.Proofs.Provision

/-!
# Widening is exact

Widening changes one pattern of a module, that of the first declarator at the top level which takes
`arguments[0]` apart (`Node.TakesApart`). A declarator with another pattern or another initialiser
is passed by, and so are all declarators below the top level. The place of the pattern is given by
everything around it (`PatternPlace`), and widening fills that place with other properties.

The properties that are added are generated pairs, in front of the first rest element. There is one
for each key of the runtimes that is no static key of the pattern, each once and in the order of
first occurrence. So all keys of the runtimes are static keys afterwards, and no property is added
without need.

## Main results

* `Node.isFirstArgument_iff`, `Node.patternKey?_eq_some_iff`: what the search looks for.
* `missingKeys_eq`, `mem_widenProperties_fst_iff`: the keys that are added.
* `exists_hasKey_widenProperties`: the keys that are there afterwards.
* `Module.exactWidening_addRuntimeExports`: what widening does, for all runtimes.
-/

namespace HostProps

namespace Node

/-! ### What the search looks for -/

/-- The expression `arguments[0]`, up to parentheses. The index is any literal of the number. -/
inductive IsArgumentsZero : Node → Prop
  | member {n object index : Node} {value : Double} (o c reference : Origin) (s : Span)
      (raw : Option String) (ps qs : List Node) :
      n.UpToParens (plain .member o [object, plain .computed c [index]]) →
      object.UpToParens (mk (.reference reference "arguments") ps) →
      index.UpToParens (mk (.number s value raw) qs) → value.isZero = true → IsArgumentsZero n

/-- A property of a pattern with a static key: `key: …`, `"key": …`, `key` or `key = …`. -/
inductive HasKey : Node → String → Prop
  | keyValue (o : Origin) {property value : Node} {key : String} :
      property.IsStaticKey key → HasKey (plain .keyValuePattern o [property, value]) key
  | shorthand (o : Origin) {name value : Node} {key : String} :
      name.IsVariable key → HasKey (plain .shorthandPattern o [name, value]) key

/-- A declarator takes `arguments[0]` apart with an object pattern, which has some properties. -/
inductive TakesApart : Node → List Node → Prop
  | declarator (o patternOrigin : Origin) (properties : List Node) {init : Node} :
      init.IsArgumentsZero →
      TakesApart (plain .declarator o [plain .objectPattern patternOrigin [list properties], init])
        properties

/-- Expressions that consist of a variable. -/
theorem reference?_beq_iff {n : Node} {name : String} :
    (n.reference? == some name) = true ↔ ∃ o ps, n = mk (.reference o name) ps := by
  rw [beq_iff_eq]
  constructor
  · intro h
    rw [reference?.eq_def] at h
    split at h
    · rename_i o v ps
      obtain rfl := Option.some.inj h
      exact ⟨o, ps, rfl⟩
    · cases h
  · rintro ⟨o, ps, rfl⟩
    rfl

/-- **The first argument** is what the search takes for it. -/
theorem isFirstArgument_iff {n : Node} : n.isFirstArgument = true ↔ n.IsArgumentsZero := by
  constructor
  · intro h
    rw [isFirstArgument] at h
    split at h
    · rename_i o object c index hn
      obtain ⟨hobject, hindex⟩ := Bool.and_eq_true_iff.1 h
      obtain ⟨reference, ps, hobject⟩ := reference?_beq_iff.1 hobject
      split at hindex
      · rename_i s value raw qs hliteral
        exact .member o c reference s raw ps qs ((upToParens_iff rfl).2 hn)
          ((upToParens_iff rfl).2 hobject) ((upToParens_iff rfl).2 hliteral) hindex
      · cases hindex
    · cases h
  · rintro ⟨o, c, reference, s, raw, ps, qs, hn, hobject, hindex, hzero⟩
    rw [isFirstArgument, (upToParens_iff rfl).1 hn]
    refine Bool.and_eq_true_iff.2 ⟨reference?_beq_iff.2 ⟨reference, ps, ?_⟩, ?_⟩
    · exact (upToParens_iff rfl).1 hobject
    · rw [(upToParens_iff rfl).1 hindex]
      exact hzero

/-- **The static key** of a property. -/
theorem patternKey?_eq_some_iff {n : Node} {key : String} :
    n.patternKey? = some key ↔ n.HasKey key := by
  constructor
  · intro h
    rw [patternKey?.eq_def] at h
    split at h
    · exact .keyValue _ (staticKey?_eq_some_iff.1 h)
    · exact .shorthand _ (binding?_eq_some_iff.1 h)
    · cases h
  · rintro (⟨o, hkey⟩ | ⟨o, hname⟩)
    · exact staticKey?_eq_some_iff.2 hkey
    · exact binding?_eq_some_iff.2 hname

instance (n : Node) (key : String) : Decidable (n.HasKey key) :=
  decidable_of_iff (n.patternKey? = some key) patternKey?_eq_some_iff

/-- The pattern that is widened in a declarator is the one that takes `arguments[0]` apart. -/
theorem firstArgumentPattern?_eq_some_iff {d : Node} {properties : List Node} :
    d.firstArgumentPattern? = some properties ↔ d.TakesApart properties := by
  constructor
  · intro h
    rw [firstArgumentPattern?.eq_def] at h
    split at h
    · split at h
      · rename_i hinit
        obtain rfl := Option.some.inj h
        exact .declarator _ _ _ (isFirstArgument_iff.1 hinit)
      · cases h
    · cases h
  · rintro ⟨o, patternOrigin, properties, hinit⟩
    exact if_pos (isFirstArgument_iff.2 hinit)

/-- No pattern is widened in a declarator that takes nothing of the first argument apart. -/
theorem firstArgumentPattern?_eq_none_iff {d : Node} :
    d.firstArgumentPattern? = none ↔ ∀ properties, ¬ d.TakesApart properties := by
  rw [Option.eq_none_iff_forall_ne_some]
  exact forall_congr' fun _ => not_congr firstArgumentPattern?_eq_some_iff

variable {runtimes : List Runtime}

/-- A declarator is widened unless it takes nothing of the first argument apart. -/
theorem widenDeclarator?_eq_none_iff {d : Node} :
    d.widenDeclarator? runtimes = none ↔ ∀ properties, ¬ d.TakesApart properties := by
  rw [← Option.map_eq_none_iff (f := Prod.fst), map_fst_widenDeclarator?, Option.map_eq_none_iff,
    firstArgumentPattern?_eq_none_iff]

/-- A statement is widened unless none of its declarators takes the first argument apart. -/
theorem widenStatement?_eq_none_iff {n : Node} :
    n.widenStatement? runtimes = none ↔
      ∀ d ∈ (n.declarators?).getD [], ∀ properties, ¬ d.TakesApart properties := by
  rw [← Option.map_eq_none_iff (f := Prod.fst), map_fst_widenStatement?, Option.map_eq_none_iff,
    List.findSome?_eq_none_iff]
  exact forall₂_congr fun _ _ => firstArgumentPattern?_eq_none_iff

end Node

/-! ### The keys that are added -/

/-- **The missing keys** are those that do not exist, where they occur first. -/
theorem missingKeys_eq (existing keys : List String) :
    missingKeys existing keys = (keys.filter (!existing.contains ·)).eraseDups := by
  induction keys generalizing existing with
  | nil => rfl
  | cons key keys ih =>
      rw [missingKeys]
      by_cases hkey : existing.contains key = true
      · rw [if_pos hkey, List.filter_cons_of_neg (by rw [hkey]; exact Bool.false_ne_true), ih]
      · have hnew : (!existing.contains key) = true := by simpa using hkey
        rw [if_neg hkey, List.filter_cons_of_pos (p := (!existing.contains ·)) hnew,
          List.eraseDups_cons, ih, List.filter_filter]
        -- A key that is added exists from then on.
        simp only [List.contains_cons, Bool.not_or]

/-- The keys of runtimes that are no static keys of some properties, each where it occurs first. -/
def absentKeys (runtimes : List Runtime) (properties : List Node) : List String :=
  ((runtimes.flatMap Runtime.keys).filter fun key => ¬ ∃ p ∈ properties, p.HasKey key).eraseDups

/-- The absent keys are the keys of the runtimes that no property has. -/
theorem mem_absentKeys_iff {runtimes : List Runtime} {properties : List Node} {key : String} :
    key ∈ absentKeys runtimes properties ↔
      (∃ r ∈ runtimes, key ∈ r.keys) ∧ ¬ ∃ p ∈ properties, p.HasKey key := by
  rw [absentKeys, List.mem_eraseDups, List.mem_filter, List.mem_flatMap, decide_eq_true_iff]

/-- Widening adds the absent keys. -/
theorem widenProperties_fst (runtimes : List Runtime) (properties : List Node) :
    (widenProperties runtimes properties).1 = absentKeys runtimes properties := by
  rw [widenProperties, absentKeys, missingKeys_eq]
  refine congrArg (fun keep => (List.filter keep _).eraseDups) (funext ?_)
  intro key
  rw [decide_not, Bool.not_inj_iff, Bool.eq_iff_iff, List.contains_iff_mem, List.mem_filterMap,
    decide_eq_true_iff]
  exact exists_congr fun p => and_congr_right fun _ => Node.patternKey?_eq_some_iff

/-- **A key is added** if a runtime has it and no property does. -/
theorem mem_widenProperties_fst_iff {runtimes : List Runtime} {properties : List Node}
    {key : String} :
    key ∈ (widenProperties runtimes properties).1 ↔
      (∃ r ∈ runtimes, key ∈ r.keys) ∧ ¬ ∃ p ∈ properties, p.HasKey key := by
  rw [widenProperties_fst, mem_absentKeys_iff]

/-- Widening adds pairs in front of the first rest element. -/
theorem widenProperties_snd (runtimes : List Runtime) (properties : List Node) :
    (widenProperties runtimes properties).2 =
      properties.take (properties.findIdx Node.isRest) ++
        exportPairs (absentKeys runtimes properties) ++
        properties.drop (properties.findIdx Node.isRest) := by
  rw [← widenProperties_fst]
  have htake : properties.takeWhile (!·.isRest) =
      properties.take (properties.findIdx fun p => !!p.isRest) :=
    List.takeWhile_eq_take_findIdx_not
  have hdrop : properties.dropWhile (!·.isRest) =
      properties.drop (properties.findIdx fun p => !!p.isRest) :=
    List.dropWhile_eq_drop_findIdx_not
  simp only [Bool.not_not] at htake hdrop
  rw [← htake, ← hdrop]
  rfl

/-- The pair that is added for a key has this key. -/
theorem hasKey_generatedPatternPair (key name : String) :
    (Node.generatedPatternPair key name).HasKey key := by
  refine .keyValue _ ?_
  rw [Node.generatedKey]
  split
  · exact .name _ _ _
  · exact .string _ _ _ _

/-- **Afterwards every key of every runtime is there.** -/
theorem exists_hasKey_widenProperties (properties : List Node) {runtimes : List Runtime}
    {r : Runtime} {key : String} (hr : r ∈ runtimes) (hkey : key ∈ r.keys) :
    ∃ p ∈ (widenProperties runtimes properties).2, p.HasKey key := by
  obtain ⟨before, after, heq, hwidened⟩ := exists_widenProperties runtimes properties
  rw [hwidened]
  -- A key that was there stays with its property, and one that was not is among those added.
  by_cases hexists : ∃ p ∈ properties, p.HasKey key
  · obtain ⟨p, hp, hpKey⟩ := hexists
    rw [heq] at hp
    refine ⟨p, ?_, hpKey⟩
    rw [List.append_assoc]
    exact (List.mem_append.1 hp).elim (List.mem_append_left _)
      (fun h => List.mem_append_right _ (List.mem_append_right _ h))
  · have habsent : key ∈ (widenProperties runtimes properties).1 :=
      mem_widenProperties_fst_iff.2 ⟨⟨r, hr, hkey⟩, hexists⟩
    refine ⟨Node.generatedPatternPair key (runtimeVariable key), ?_,
      hasKey_generatedPatternPair key _⟩
    exact List.mem_append_left _ (List.mem_append_right _ (List.mem_map.2 ⟨key, habsent, rfl⟩))

/-- The table of local names has all keys of runtimes. -/
theorem mem_runtimeVariables {r : Runtime} {key : String} (h : key ∈ r.keys) :
    (key, runtimeVariable key) ∈ runtimeVariables := by
  have hall : ∀ r : Runtime, ∀ key ∈ r.keys, (key, runtimeVariable key) ∈ runtimeVariables := by
    intro r
    cases r <;> decide
  exact hall r key h

/-! ### The place -/

/-- One edit is possible unless no item can be replaced. -/
theorem editFirst?_eq_none_iff {α β : Type} {f : α → Option (β × α)} {l : List α} :
    editFirst? f l = none ↔ ∀ a ∈ l, f a = none := by
  rw [← Option.map_eq_none_iff (f := Prod.fst), map_fst_editFirst?, List.findSome?_eq_none_iff]
  exact forall₂_congr fun _ _ => Option.map_eq_none_iff

/-- A place for the properties of an object pattern, in a declarator at the top level of a body:
everything around them. -/
structure PatternPlace where
  /-- The statements in front. -/
  before : List Node
  /-- The head of the statement. -/
  origin : Origin
  kind : VariableKind
  /-- The declarators in front. -/
  declaratorsBefore : List Node
  /-- The head of the declarator, that of the pattern, and the initialiser. -/
  declaratorOrigin : Origin
  patternOrigin : Origin
  init : Node
  /-- The declarators behind. -/
  declaratorsAfter : List Node
  /-- The statements behind. -/
  after : List Node

namespace PatternPlace

/-- The body with some properties in the place. -/
def fill (place : PatternPlace) (properties : List Node) : List Node :=
  place.before ++
    .mk (.variableDeclaration place.origin place.kind)
      [.list (place.declaratorsBefore ++
        .plain .declarator place.declaratorOrigin
          [.plain .objectPattern place.patternOrigin [.list properties], place.init] ::
        place.declaratorsAfter)] ::
    place.after

/-- The declarators at the top level in front of the place. -/
def declaratorsAhead (place : PatternPlace) : List Node :=
  (place.before.flatMap fun n => (n.declarators?).getD []) ++ place.declaratorsBefore

/-- In a module, this is the first place where the first argument is taken apart, and there are
these properties in it. -/
structure IsFirst (place : PatternPlace) (m : Module) (properties : List Node) : Prop where
  body : m.body = place.fill properties
  init : place.init.IsArgumentsZero
  ahead : ∀ d ∈ place.declaratorsAhead, ∀ ps, ¬ d.TakesApart ps

/-- What the first place holds is what a search for it finds. -/
theorem IsFirst.firstArgumentPattern?_eq {place : PatternPlace} {m : Module}
    {properties : List Node} (h : place.IsFirst m properties) :
    m.firstArgumentPattern? = some properties := by
  have hdeclarators : m.declarators =
      place.declaratorsAhead ++
        .plain .declarator place.declaratorOrigin
          [.plain .objectPattern place.patternOrigin [.list properties], place.init] ::
        (place.declaratorsAfter ++ place.after.flatMap fun n => (n.declarators?).getD []) := by
    rw [Module.declarators, h.body, fill, List.flatMap_append, List.flatMap_cons, declaratorsAhead,
      List.append_assoc]
    exact congrArg _ (List.append_assoc _ _ _)
  have hahead : place.declaratorsAhead.findSome? Node.firstArgumentPattern? = none :=
    List.findSome?_eq_none_iff.2 fun d hd => Node.firstArgumentPattern?_eq_none_iff.2 (h.ahead d hd)
  have hfirst := Node.firstArgumentPattern?_eq_some_iff.2
    (.declarator place.declaratorOrigin place.patternOrigin properties h.init)
  rw [Module.firstArgumentPattern?, hdeclarators, List.findSome?_append, hahead, Option.none_or,
    List.findSome?_cons, hfirst]

end PatternPlace

namespace Module

variable {runtimes : List Runtime} (m : Module)

/-- What one edit in the body changes is the first place. -/
theorem exists_isFirst_of_editFirst? {keys : List String} {body : List Node}
    (h : editFirst? (Node.widenStatement? runtimes) m.body = some (keys, body)) :
    ∃ (place : PatternPlace) (properties : List Node), place.IsFirst m properties ∧
      keys = (widenProperties runtimes properties).1 ∧
      body = place.fill (widenProperties runtimes properties).2 := by
  -- From the outside in: the statement, its declarator, the pattern.
  obtain ⟨before, n, n', after, hbody, rfl, hn, hbefore⟩ := editFirst?_eq_some_iff.1 h
  obtain ⟨origin, kind, ds, ds', rfl, hds, rfl⟩ := Node.widenStatement?_eq_some_iff.1 hn
  obtain ⟨declaratorsBefore, d, d', declaratorsAfter, rfl, rfl, hd, hdeclarators⟩ :=
    editFirst?_eq_some_iff.1 hds
  obtain ⟨declaratorOrigin, patternOrigin, properties, init, rfl, hinit, rfl, rfl⟩ :=
    Node.widenDeclarator?_eq_some_iff.1 hd
  refine ⟨⟨before, origin, kind, declaratorsBefore, declaratorOrigin, patternOrigin, init,
    declaratorsAfter, after⟩, properties, ⟨hbody, Node.isFirstArgument_iff.1 hinit, ?_⟩, rfl, rfl⟩
  intro d hd
  obtain hd | hd := List.mem_append.1 hd
  · obtain ⟨n, hn, hd⟩ := List.mem_flatMap.1 hd
    exact Node.widenStatement?_eq_none_iff.1 (hbefore n hn) d hd
  · exact Node.widenDeclarator?_eq_none_iff.1 (hdeclarators d hd)

/-- An edit in the body is possible unless no declarator takes the first argument apart. -/
theorem editFirst?_widenStatement?_eq_none_iff :
    editFirst? (Node.widenStatement? runtimes) m.body = none ↔
      ∀ d ∈ m.declarators, ∀ properties, ¬ d.TakesApart properties := by
  rw [editFirst?_eq_none_iff, declarators, List.forall_mem_flatMap]
  exact forall₂_congr fun _ _ => Node.widenStatement?_eq_none_iff

/-- **Nothing is widened** if no declarator takes the first argument apart. -/
theorem addRuntimeExports_of_forall_not
    (h : ∀ d ∈ m.declarators, ∀ properties, ¬ d.TakesApart properties) :
    m.addRuntimeExports runtimes = ([], m, []) := by
  rw [addRuntimeExports_eq, m.editFirst?_widenStatement?_eq_none_iff.2 h]
  split <;> rfl

/-- **Otherwise the first place is widened.** -/
theorem exists_isFirst (hruntimes : runtimes ≠ [])
    (h : ∃ d ∈ m.declarators, ∃ properties, d.TakesApart properties) :
    ∃ (place : PatternPlace) (properties : List Node), place.IsFirst m properties ∧
      (m.addRuntimeExports runtimes).1 = (widenProperties runtimes properties).1 ∧
      (m.addRuntimeExports runtimes).2.1 =
        { m with body := place.fill (widenProperties runtimes properties).2 } := by
  cases hedit : editFirst? (Node.widenStatement? runtimes) m.body with
  | none =>
      obtain ⟨d, hd, properties, hproperties⟩ := h
      exact (m.editFirst?_widenStatement?_eq_none_iff.1 hedit d hd properties hproperties).elim
  | some r =>
      obtain ⟨keys, body⟩ := r
      obtain ⟨place, properties, hplace, rfl, rfl⟩ := m.exists_isFirst_of_editFirst? hedit
      have hwidened := addRuntimeExports_eq runtimes m
      rw [List.isEmpty_eq_false_iff.2 hruntimes, hedit] at hwidened
      refine ⟨place, properties, hplace, ?_, ?_⟩
      · rw [hwidened]
        rfl
      · rw [hwidened]
        rfl

/-- **Widening is exact and minimal.** For all runtimes, of which there is at least one:

* if no declarator at the top level takes `arguments[0]` apart with an object pattern, the module
  stays as it is and no key is told;
* otherwise the properties of the first such pattern change, and nothing else. The keys that are
  told are those of the runtimes that are no static keys of the pattern, each once and in the order
  of first occurrence. For each of them a pair with its local name stands in front of the first rest
  element, or at the end if there is none, in that order. Then every key of every runtime is a
  static key of the pattern. -/
theorem exactWidening_addRuntimeExports (hruntimes : runtimes ≠ []) :
    ((∀ d ∈ m.declarators, ∀ properties, ¬ d.TakesApart properties) →
      (m.addRuntimeExports runtimes).1 = [] ∧ (m.addRuntimeExports runtimes).2.1 = m) ∧
    ((∃ d ∈ m.declarators, ∃ properties, d.TakesApart properties) →
      ∃ (place : PatternPlace) (properties widened : List Node) (keys : List String),
        place.IsFirst m properties ∧
        (m.addRuntimeExports runtimes).1 = keys ∧
        (m.addRuntimeExports runtimes).2.1 = { m with body := place.fill widened } ∧
        keys.Nodup ∧
        keys = ((runtimes.flatMap Runtime.keys).filter fun key =>
          ¬ ∃ p ∈ properties, p.HasKey key).eraseDups ∧
        (∀ key ∈ keys, (key, runtimeVariable key) ∈ runtimeVariables) ∧
        widened = properties.take (properties.findIdx Node.isRest) ++
          keys.map (fun key => Node.generatedPatternPair key (runtimeVariable key)) ++
          properties.drop (properties.findIdx Node.isRest) ∧
        ∀ r ∈ runtimes, ∀ key ∈ r.keys, ∃ p ∈ widened, p.HasKey key) := by
  constructor
  · intro h
    rw [m.addRuntimeExports_of_forall_not h]
    exact ⟨rfl, rfl⟩
  · intro h
    obtain ⟨place, properties, hplace, hkeys, hmodule⟩ := m.exists_isFirst hruntimes h
    rw [widenProperties_fst] at hkeys
    refine ⟨place, properties, _, _, hplace, hkeys, hmodule, nodup_eraseDups _, rfl, ?_,
      widenProperties_snd runtimes properties, ?_⟩
    · intro key hkey
      rw [← hkeys] at hkey
      obtain ⟨r, -, hr⟩ := exists_mem_keys_of_mem_addRuntimeExports hkey
      exact mem_runtimeVariables hr
    · intro r hr key hkey
      exact exists_hasKey_widenProperties properties hr hkey

/-- The property `jsx: b` in the module below. -/
def jsxProperty : Node :=
  .plain .keyValuePattern .generated
    [.mk (.name ⟨26, 29⟩ "jsx") [], .mk (.binding (.written ⟨31, 32⟩) "b") []]

/-- The rest element `...c` in the module below. -/
def restElement : Node :=
  .mk (.rest (.written ⟨34, 38⟩) ⟨34, 37⟩) [.mk (.binding (.written ⟨37, 38⟩) "c") []]

/-- The module `const a = arguments[0], {jsx: b, ...c} = (arguments[0]);`, as it is written. -/
def takesRest : Module where
  span := ⟨1, 57⟩
  body :=
    [.mk (.variableDeclaration (.written ⟨1, 57⟩) .const)
      [.list [
        .plain .declarator (.written ⟨7, 23⟩)
          [.mk (.binding (.written ⟨7, 8⟩) "a") [],
            .plain .member (.written ⟨11, 23⟩)
              [.mk (.reference (.written ⟨11, 20⟩) "arguments") [],
                .plain .computed (.written ⟨20, 23⟩)
                  [.mk (.number ⟨21, 22⟩ .zero (some "0")) []]]],
        .plain .declarator (.written ⟨25, 56⟩)
          [.plain .objectPattern (.written ⟨25, 39⟩) [.list [jsxProperty, restElement]],
            .plain .parenthesis (.written ⟨42, 56⟩)
              [.plain .member (.written ⟨43, 55⟩)
                [.mk (.reference (.written ⟨43, 52⟩) "arguments") [],
                  .plain .computed (.written ⟨52, 55⟩)
                    [.mk (.number ⟨53, 54⟩ .zero (some "0")) []]]]]]]]
  interpreter := none

/-- The keys of two runtimes that this pattern lacks. -/
theorem absentKeys_takesRest :
    absentKeys [.production, .development] [jsxProperty, restElement] =
      ["Fragment", "jsxs", "jsxDev"] := by
  decide +kernel

/-- Two runtimes that share a key add three keys to the second declarator of this module, between
its property and its rest element. -/
theorem exactWidening_takesRest :
    [Runtime.production, Runtime.development] ≠ [] ∧
      (∃ d ∈ takesRest.declarators, ∃ properties, d.TakesApart properties) ∧
      (takesRest.addRuntimeExports [.production, .development]).1 =
        ["Fragment", "jsxs", "jsxDev"] ∧
      ∃ place : PatternPlace, place.IsFirst takesRest [jsxProperty, restElement] ∧
        (takesRest.addRuntimeExports [.production, .development]).2.1 =
          { takesRest with
            body := place.fill
              [jsxProperty, .generatedPatternPair "Fragment" "_Fragment",
                .generatedPatternPair "jsxs" "_jsxs", .generatedPatternPair "jsxDev" "_jsxDev",
                restElement] } := by
  have hruntimes : [Runtime.production, Runtime.development] ≠ [] := List.cons_ne_nil _ _
  have hpattern : takesRest.firstArgumentPattern? = some [jsxProperty, restElement] := rfl
  have hdeclarator : ∃ d ∈ takesRest.declarators, ∃ properties, d.TakesApart properties := by
    obtain ⟨d, hd, hproperties⟩ := List.exists_of_findSome?_eq_some hpattern
    exact ⟨d, hd, _, Node.firstArgumentPattern?_eq_some_iff.1 hproperties⟩
  obtain ⟨place, properties, widened, keys, hplace, hkeys, hmodule, -, habsent, -, hwidened, -⟩ :=
    (takesRest.exactWidening_addRuntimeExports hruntimes).2 hdeclarator
  obtain rfl := Option.some.inj (hplace.firstArgumentPattern?_eq.symm.trans hpattern)
  obtain rfl := habsent.trans absentKeys_takesRest
  rw [hwidened] at hmodule
  exact ⟨hruntimes, hdeclarator, hkeys, place, hplace, hmodule⟩

end Module

end HostProps
