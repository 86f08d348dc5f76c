import HostProps.Proofs.ExactWidening
import Mathlib.Data.Finmap

/-!
# What a widened Pattern binds

Widening puts properties into a pattern that binds names already. Two things can go wrong for the
names that are there.

A name can be bound twice. Widening looks at the keys of a pattern, and not at the names that it
binds, so it adds `jsx: _jsx` to `{a: _jsx}`. The names of a widened pattern are distinct if and
only if the pattern has each key of the runtimes whose local name it binds.

A name can get another value. What a pattern gives its names is told here for patterns without
nesting and without defaults (`FlatPattern`), which take an object apart: a property takes the value
of its key, and a rest element what is left. Properties do not see each other, so each takes what it
took. A rest element loses the keys that are added in front of it.

## Main results

* `nodup_boundNames_widened_iff`: when the names of a widened pattern are distinct.
* `flatMap_boundNames_of_flatPattern?`: the names of a flat pattern are those that it binds.
* `flatPattern?_widenProperties`: a widened pattern stays flat.
* `FlatPattern.lookup_takeApart_extend_of_mem`, `FlatPattern.lookup_takeApart_extend_rest`: what the
  names of a pattern hold when it has more fields.
* `takeApart_widenProperties`: what widening does to what the names of a pattern hold.
-/

namespace HostProps

/-! ### Distinct names -/

section Names

variable (runtimes : List Runtime) (properties : List Node)

/-- The keys that widening adds have distinct local names. -/
theorem nodup_map_runtimeVariable :
    ((widenProperties runtimes properties).1.map runtimeVariable).Nodup := by
  have hnodup : (widenProperties runtimes properties).1.Nodup := by
    rw [widenProperties_fst]
    exact nodup_eraseDups _
  refine List.Nodup.map_on ?_ hnodup
  intro k hk l hl heq
  obtain ⟨⟨r, -, hr⟩, -⟩ := mem_widenProperties_fst_iff.1 hk
  obtain ⟨⟨s, -, hs⟩, -⟩ := mem_widenProperties_fst_iff.1 hl
  exact Runtime.runtimeVariable_inj hr hs heq

/-- **Widening binds a name twice unless the pattern has its key.** For every object pattern that
binds distinct names, and all runtimes: the names that are bound after widening are distinct if and
only if each key of the runtimes, whose local name is bound by the pattern at any depth, is a static
key of the pattern. -/
theorem nodup_boundNames_widened_iff (o : Origin)
    (hnodup : (Node.plain .objectPattern o [.list properties]).boundNames.Nodup) :
    (Node.plain .objectPattern o
        [.list (widenProperties runtimes properties).2]).boundNames.Nodup ↔
      ∀ r ∈ runtimes, ∀ key ∈ r.keys,
        runtimeVariable key ∈ (Node.plain .objectPattern o [.list properties]).boundNames →
          ∃ p ∈ properties, p.HasKey key := by
  rw [Node.boundNames_objectPattern] at hnodup ⊢
  rw [Node.boundNames_objectPattern, (Node.boundNames_widenProperties runtimes properties).nodup_iff,
    List.nodup_append]
  constructor
  · rintro ⟨-, -, hdistinct⟩ r hr key hkey hbound
    by_contra habsent
    have hadded : key ∈ (widenProperties runtimes properties).1 :=
      mem_widenProperties_fst_iff.2 ⟨⟨r, hr, hkey⟩, habsent⟩
    exact hdistinct _ hbound _ (List.mem_map_of_mem hadded) rfl
  · intro hkeys
    refine ⟨hnodup, nodup_map_runtimeVariable runtimes properties, ?_⟩
    rintro _ hbound name hname rfl
    obtain ⟨key, hadded, rfl⟩ := List.mem_map.1 hname
    obtain ⟨⟨r, hr, hkey⟩, habsent⟩ := mem_widenProperties_fst_iff.1 hadded
    exact habsent (hkeys r hr key hkey hbound)

end Names

/-- The pattern `{jsx: b, ...c}` does not bind the local name of a runtime key, so its names stay
distinct. -/
theorem nodup_boundNames_widened_takesRest :
    let o : Origin := .written ⟨25, 39⟩
    let properties := [Module.jsxProperty, Module.restElement]
    (Node.plain .objectPattern o [.list properties]).boundNames.Nodup ∧
      (Node.plain .objectPattern o
        [.list (widenProperties [.production, .development] properties).2]).boundNames.Nodup := by
  intro o properties
  have hnodup : (Node.plain .objectPattern o [.list properties]).boundNames.Nodup := by
    decide +kernel
  refine ⟨hnodup, (nodup_boundNames_widened_iff _ properties o hnodup).2 ?_⟩
  decide +kernel

/-- The property `a: _jsx` of the pattern `{a: _jsx}`, as it is written. -/
def aliasProperty : Node :=
  .plain .keyValuePattern .generated
    [.mk (.name ⟨8, 9⟩ "a") [], .mk (.binding (.written ⟨11, 15⟩) "_jsx") []]

/-- **A name can be bound twice**: this pattern binds `_jsx`, and `jsx: _jsx` is added to it. -/
theorem not_nodup_boundNames_aliasProperty :
    let o : Origin := .written ⟨7, 16⟩
    (Node.plain .objectPattern o [.list [aliasProperty]]).boundNames.Nodup ∧
      ¬ (Node.plain .objectPattern o
        [.list (widenProperties [.production] [aliasProperty]).2]).boundNames.Nodup := by
  decide +kernel

/-! ### Objects -/

/-- An object is its own properties: a finite map from keys to values. -/
abbrev Fields (V : Type) := Finmap fun _ : String => V

namespace Fields

variable {V : Type}

/-- The object without some keys. -/
def without (object : Fields V) (keys : List String) : Fields V :=
  keys.foldl (fun object key => object.erase key) object

/-- The keys are gone, and nothing else is. -/
theorem lookup_without (object : Fields V) (keys : List String) (key : String) :
    (object.without keys).lookup key = if key ∈ keys then none else object.lookup key := by
  induction keys generalizing object with
  | nil => rfl
  | cons k keys ih =>
      have hfirst : (object.without (k :: keys)).lookup key =
          (without (object.erase k) keys).lookup key := rfl
      rw [hfirst, ih]
      by_cases hkeys : key ∈ keys
      · rw [if_pos hkeys, if_pos (List.mem_cons_of_mem k hkeys)]
      · rw [if_neg hkeys]
        by_cases hk : key = k
        · subst hk
          rw [if_pos List.mem_cons_self, Finmap.lookup_erase]
        · rw [if_neg (by simp [hk, hkeys]), Finmap.lookup_erase_ne hk]

/-- Keys can be taken away one after the other. -/
theorem without_append (object : Fields V) (keys more : List String) :
    object.without (keys ++ more) = (object.without keys).without more :=
  List.foldl_append

/-- An object stays as it is without keys that it does not have, and only without those. -/
theorem without_eq_self_iff {object : Fields V} {keys : List String} :
    object.without keys = object ↔ ∀ key ∈ keys, key ∉ object := by
  constructor
  · intro h key hkey
    rw [← Finmap.lookup_eq_none, ← h, lookup_without, if_pos hkey]
  · intro h
    refine Finmap.ext_lookup fun key => ?_
    rw [lookup_without]
    split
    · rename_i hkey
      exact (Finmap.lookup_eq_none.2 (h key hkey)).symm
    · rfl

/-- An object has the keys that it had and that were not taken away. -/
theorem mem_without_iff {object : Fields V} {keys : List String} {key : String} :
    key ∈ object.without keys ↔ key ∈ object ∧ key ∉ keys := by
  rw [← Finmap.lookup_isSome, ← Finmap.lookup_isSome, lookup_without]
  by_cases hkey : key ∈ keys <;> simp [hkey]

end Fields

/-! ### Flat patterns -/

/-- What a name of a pattern holds: a value, if there is one, or an object of its own. -/
inductive Taken (V : Type) where
  | value (v : Option V)
  | rest (object : Fields V)
deriving DecidableEq

/-- A pattern without nesting and without defaults. -/
structure FlatPattern where
  /-- Keys, with the names that take their values. -/
  fields : List (String × String)
  /-- The name that takes what is left. -/
  rest : Option String
deriving DecidableEq

namespace FlatPattern

/-- The names that are bound. -/
def names (pattern : FlatPattern) : List String :=
  pattern.fields.map Prod.snd ++ pattern.rest.toList

/-- The keys that a rest element does not take. -/
def keys (pattern : FlatPattern) : List String := pattern.fields.map Prod.fst

/-- Take an object apart: each name, with what it holds. -/
def takeApart {V : Type} (pattern : FlatPattern) (object : Fields V) : List (String × Taken V) :=
  pattern.fields.map (fun field => (field.2, .value (object.lookup field.1))) ++
    pattern.rest.toList.map fun name => (name, .rest (object.without pattern.keys))

/-- The pattern with some keys of runtimes behind its fields. -/
def extend (pattern : FlatPattern) (added : List String) : FlatPattern :=
  { pattern with fields := pattern.fields ++ added.map fun key => (key, runtimeVariable key) }

end FlatPattern

/-- The key of a property of a pattern and the name that it binds: `key: name`, `"key": name`, or
`name` alone. -/
def Node.field? : Node → Option (String × String)
  | plain .keyValuePattern _ [key, value] =>
    key.staticKey?.bind fun key => value.binding?.map fun name => (key, name)
  | plain .shorthandPattern _ [name, value] =>
    if value.isAbsent then name.binding?.map fun name => (name, name) else none
  | _ => none

/-- The name of the rest element, where at most that is left of a pattern. -/
def restName? : List Node → Option (Option String)
  | [] => some none
  | [.mk (.rest _ _) [argument]] => argument.binding?.map some
  | _ => none

/-- Read the properties of a pattern as a flat one. -/
def flatPattern? (properties : List Node) : Option FlatPattern :=
  ((properties.takeWhile (!·.isRest)).mapM Node.field?).bind fun fields =>
    (restName? (properties.dropWhile (!·.isRest))).map fun rest => ⟨fields, rest⟩

/-- A list is read item by item. -/
theorem mapM_eq_some_iff {α β : Type} {f : α → Option β} {l : List α} {m : List β} :
    l.mapM f = some m ↔ l.map f = m.map some := by
  induction l generalizing m with
  | nil =>
      cases m <;> simp
  | cons a l ih =>
      rw [List.mapM_cons, List.map_cons]
      constructor
      · intro h
        obtain ⟨b, hb, hrest⟩ := Option.bind_eq_some_iff.1 h
        obtain ⟨bs, hbs, hm⟩ := Option.bind_eq_some_iff.1 hrest
        obtain rfl := Option.some.inj hm
        rw [hb, ih.1 hbs, List.map_cons]
      · intro h
        cases m with
        | nil => cases h
        | cons b bs =>
            obtain ⟨hb, hbs⟩ := List.cons.inj h
            rw [hb, ih.2 hbs]
            rfl

/-- A flat pattern is its fields and its rest element. -/
theorem flatPattern?_eq_some_iff {properties : List Node} {pattern : FlatPattern} :
    flatPattern? properties = some pattern ↔
      (properties.takeWhile (!·.isRest)).map Node.field? = pattern.fields.map some ∧
        restName? (properties.dropWhile (!·.isRest)) = some pattern.rest := by
  rw [flatPattern?, Option.bind_eq_some_iff]
  constructor
  · rintro ⟨fields, hfields, hrest⟩
    obtain ⟨rest, hname, rfl⟩ := Option.map_eq_some_iff.1 hrest
    exact ⟨mapM_eq_some_iff.1 hfields, hname⟩
  · rintro ⟨hfields, hrest⟩
    exact ⟨_, mapM_eq_some_iff.2 hfields, Option.map_eq_some_iff.2 ⟨_, hrest, rfl⟩⟩

/-- The key of a field is a static one. -/
theorem Node.hasKey_of_field? {n : Node} {key name : String} (h : n.field? = some (key, name)) :
    n.HasKey key := by
  rw [← patternKey?_eq_some_iff]
  rw [field?.eq_def] at h
  split at h
  · obtain ⟨k, hk, hvalue⟩ := Option.bind_eq_some_iff.1 h
    obtain ⟨_, -, heq⟩ := Option.map_eq_some_iff.1 hvalue
    obtain ⟨rfl, -⟩ := Prod.mk.inj heq
    exact hk
  · split at h
    · obtain ⟨n, hn, heq⟩ := Option.map_eq_some_iff.1 h
      obtain ⟨rfl, -⟩ := Prod.mk.inj heq
      exact hn
    · cases h
  · cases h

/-- A pattern that consists of a variable binds this variable. -/
theorem Node.boundNames_of_binding? {n : Node} {name : String} (h : n.binding? = some name) :
    n.boundNames = [name] := by
  obtain ⟨o, name, ps⟩ := binding?_eq_some_iff.1 h
  rw [boundNames_mk]
  rfl

/-- A field binds its name. -/
theorem Node.boundNames_of_field? {n : Node} {key name : String} (h : n.field? = some (key, name)) :
    n.boundNames = [name] := by
  rw [field?.eq_def] at h
  split at h
  · rename_i o k value
    obtain ⟨_, -, hvalue⟩ := Option.bind_eq_some_iff.1 h
    obtain ⟨_, hname, heq⟩ := Option.map_eq_some_iff.1 hvalue
    obtain ⟨-, rfl⟩ := Prod.mk.inj heq
    rw [boundNames_mk, ← boundNames_of_binding? hname]
    simp [Head.boundNames]
  · split at h
    · rename_i o n value _
      obtain ⟨_, hname, heq⟩ := Option.map_eq_some_iff.1 h
      obtain ⟨-, rfl⟩ := Prod.mk.inj heq
      rw [boundNames_mk, ← boundNames_of_binding? hname]
      simp [Head.boundNames]
    · cases h
  · cases h

/-- What is left of a pattern binds the name of the rest element. -/
theorem flatMap_boundNames_of_restName? {properties : List Node} {rest : Option String}
    (h : restName? properties = some rest) : properties.flatMap Node.boundNames = rest.toList := by
  rw [restName?.eq_def] at h
  split at h
  · obtain rfl := Option.some.inj h
    rfl
  · rename_i o dots argument
    obtain ⟨name, hname, rfl⟩ := Option.map_eq_some_iff.1 h
    rw [List.flatMap_singleton, Node.boundNames_mk, Option.toList_some,
      ← Node.boundNames_of_binding? hname]
    simp [Head.boundNames]
  · cases h

/-- **The names of a flat pattern** are those that its properties bind. -/
theorem flatMap_boundNames_of_flatPattern? {properties : List Node} {pattern : FlatPattern}
    (hflat : flatPattern? properties = some pattern) :
    properties.flatMap Node.boundNames = pattern.names := by
  obtain ⟨hfields, hrest⟩ := flatPattern?_eq_some_iff.1 hflat
  have hfront : ∀ (ns : List Node) (fields : List (String × String)),
      ns.map Node.field? = fields.map some →
        ns.flatMap Node.boundNames = fields.map Prod.snd := by
    intro ns fields h
    induction ns generalizing fields with
    | nil =>
        rw [List.map_eq_nil_iff.1 h.symm]
        rfl
    | cons n ns ih =>
        obtain ⟨field, others, rfl, hfield, hothers⟩ := List.map_eq_cons_iff.1 h.symm
        rw [List.flatMap_cons, ih others hothers.symm, Node.boundNames_of_field? hfield.symm]
        rfl
  have hcut : properties =
      properties.takeWhile (!·.isRest) ++ properties.dropWhile (!·.isRest) :=
    List.takeWhile_append_dropWhile.symm
  rw [hcut, List.flatMap_append, hfront _ _ hfields, flatMap_boundNames_of_restName? hrest]
  rfl

/-- A generated pair is a field. -/
theorem Node.field?_generatedPatternPair (key name : String) :
    (generatedPatternPair key name).field? = some (key, name) := by
  have hkey : (generatedKey key).staticKey? = some key := by
    rw [generatedKey]
    split <;> rfl
  show (generatedKey key).staticKey?.bind _ = _
  rw [hkey]
  rfl

/-- **A widened pattern stays flat**, with more fields. -/
theorem flatPattern?_widenProperties (runtimes : List Runtime) {properties : List Node}
    {pattern : FlatPattern} (hflat : flatPattern? properties = some pattern) :
    flatPattern? (widenProperties runtimes properties).2 =
      some (pattern.extend (widenProperties runtimes properties).1) := by
  obtain ⟨hfields, hrest⟩ := flatPattern?_eq_some_iff.1 hflat
  obtain ⟨hfront, hback⟩ := span_isRest_widenProperties runtimes properties
  refine flatPattern?_eq_some_iff.2 ⟨?_, ?_⟩
  · have hpairs : ∀ keys : List String, (exportPairs keys).map Node.field? =
        (keys.map fun key => (key, runtimeVariable key)).map some := by
      intro keys
      rw [exportPairs, List.map_map, List.map_map]
      exact List.map_congr_left fun key _ => Node.field?_generatedPatternPair key _
    rw [hfront, List.map_append, hfields, hpairs, ← List.map_append]
    rfl
  · rw [hback]
    exact hrest

/-- No key that is added is one of the fields. -/
theorem not_mem_keys_of_mem_widenProperties {runtimes : List Runtime} {properties : List Node}
    {pattern : FlatPattern} (hflat : flatPattern? properties = some pattern) {key : String}
    (hadded : key ∈ (widenProperties runtimes properties).1) : key ∉ pattern.keys := by
  intro hkey
  obtain ⟨⟨k, name⟩, hfield, rfl⟩ := List.mem_map.1 hkey
  have hread := List.mem_map_of_mem (f := some) hfield
  rw [← (flatPattern?_eq_some_iff.1 hflat).1] at hread
  obtain ⟨p, hp, hp'⟩ := List.mem_map.1 hread
  exact (mem_widenProperties_fst_iff.1 hadded).2
    ⟨p, (List.takeWhile_sublist _).subset hp, Node.hasKey_of_field? hp'⟩

namespace FlatPattern

variable {V : Type} (pattern : FlatPattern) (object : Fields V)

/-- The keys of an extended pattern: those that it had, and the added ones. -/
theorem keys_extend (added : List String) : (pattern.extend added).keys = pattern.keys ++ added := by
  simp [keys, extend, Function.comp_def]

/-- **Fields do not see what comes behind them**: their names hold what they held. -/
theorem lookup_takeApart_extend_of_mem (added : List String) {field : String × String}
    (hfield : field ∈ pattern.fields) :
    ((pattern.extend added).takeApart object).lookup field.2 =
      (pattern.takeApart object).lookup field.2 := by
  let taken : List (String × Taken V) :=
    pattern.fields.map fun field => (field.2, .value (object.lookup field.1))
  have hfound : (taken.lookup field.2).isSome = true :=
    List.lookup_isSome_iff.2 ⟨_, List.mem_map_of_mem hfield, beq_self_eq_true _⟩
  have hfirst : ∀ others : List (String × Taken V),
      (taken ++ others).lookup field.2 = taken.lookup field.2 := by
    intro others
    rw [List.lookup_append, Option.or_of_isSome hfound]
  rw [takeApart, takeApart, extend, List.map_append, List.append_assoc]
  exact (hfirst _).trans (hfirst _).symm

variable {pattern}

/-- The name of the rest element holds what the fields leave, unless a field has this name too. -/
theorem lookup_takeApart_rest {name : String} (hrest : pattern.rest = some name)
    (hname : name ∉ pattern.fields.map Prod.snd) :
    (pattern.takeApart object).lookup name = some (.rest (object.without pattern.keys)) := by
  have hfields : (pattern.fields.map fun field =>
      ((field.2, .value (object.lookup field.1)) : String × Taken V)).lookup name = none := by
    refine List.lookup_eq_none_iff.2 fun taken htaken => ?_
    obtain ⟨field, hfield, rfl⟩ := List.mem_map.1 htaken
    refine bne_iff_ne.2 ?_
    rintro rfl
    exact hname (List.mem_map_of_mem hfield)
  rw [takeApart, hrest, List.lookup_append, hfields, Option.none_or]
  exact List.lookup_cons_self

/-- **A rest element loses the keys that are added in front of it.** -/
theorem lookup_takeApart_extend_rest {name : String} (hrest : pattern.rest = some name)
    {added : List String} (hname : name ∉ pattern.fields.map Prod.snd)
    (hadded : name ∉ added.map runtimeVariable) :
    ((pattern.extend added).takeApart object).lookup name =
      some (.rest ((object.without pattern.keys).without added)) := by
  have hextended : name ∉ (pattern.extend added).fields.map Prod.snd := by
    rw [extend, List.map_append, List.mem_append, not_or, List.map_map]
    exact ⟨hname, hadded⟩
  have hextendedRest : (pattern.extend added).rest = some name := hrest
  rw [lookup_takeApart_rest object hextendedRest hextended, keys_extend, Fields.without_append]

/-- The name of the rest element is no field's, if all names are distinct. -/
theorem not_mem_fields_of_rest {name : String} (hrest : pattern.rest = some name)
    (hnames : pattern.names.Nodup) : name ∉ pattern.fields.map Prod.snd := by
  intro hname
  have hmem : name ∈ pattern.rest.toList := Option.mem_toList.2 hrest
  exact (List.nodup_append.1 hnames).2.2 name hname name hmem rfl

/-- **All names hold what they held** after some keys were added if and only if there is no rest
element, or the object has none of these keys. -/
theorem lookup_takeApart_extend_eq_iff {added : List String} (hnames : pattern.names.Nodup)
    (hlocal : ∀ name ∈ pattern.names, name ∉ added.map runtimeVariable)
    (hnew : ∀ key ∈ added, key ∉ pattern.keys) :
    (∀ name ∈ pattern.names, ((pattern.extend added).takeApart object).lookup name =
        (pattern.takeApart object).lookup name) ↔
      pattern.rest = none ∨ ∀ key ∈ added, key ∉ object := by
  have hfields : ∀ name ∈ pattern.fields.map Prod.snd,
      ((pattern.extend added).takeApart object).lookup name =
        (pattern.takeApart object).lookup name := by
    intro name hname
    obtain ⟨field, hfield, rfl⟩ := List.mem_map.1 hname
    exact pattern.lookup_takeApart_extend_of_mem object added hfield
  -- It is the rest element that matters.
  cases hrest : pattern.rest with
  | none =>
      refine iff_of_true (fun name hname => hfields name ?_) (.inl rfl)
      rwa [names, hrest, Option.toList_none, List.append_nil] at hname
  | some rest =>
      have hmem : rest ∈ pattern.names := List.mem_append_right _ (Option.mem_toList.2 hrest)
      have hfield := not_mem_fields_of_rest hrest hnames
      have hsame : ((pattern.extend added).takeApart object).lookup rest =
          (pattern.takeApart object).lookup rest ↔ ∀ key ∈ added, key ∉ object := by
        rw [lookup_takeApart_rest object hrest hfield,
          lookup_takeApart_extend_rest object hrest hfield (hlocal rest hmem), Option.some.injEq,
          Taken.rest.injEq, Fields.without_eq_self_iff]
        refine forall₂_congr fun key hkey => not_congr ?_
        rw [Fields.mem_without_iff]
        exact and_iff_left (hnew key hkey)
      simp only [reduceCtorEq, false_or]
      rw [← hsame]
      constructor
      · intro hall
        exact hall rest hmem
      · intro hlast name hname
        rw [names, hrest] at hname
        obtain hname | hname := List.mem_append.1 hname
        · exact hfields name hname
        · obtain rfl := List.mem_singleton.1 hname
          exact hlast

end FlatPattern

/-- **What widening does to what the names of a pattern hold.** For every flat pattern with distinct
names, none of which is the local name of a runtime key, for all runtimes and for every object, the
widened pattern is flat again, and when the object is taken apart with it:

* the name of every field holds what it held;
* the name of the rest element holds the object that it held, without the keys that were added;
* so all names hold what they held if and only if there is no rest element, or the object has none
  of the keys that were added. -/
theorem takeApart_widenProperties {properties : List Node} {pattern : FlatPattern}
    (hflat : flatPattern? properties = some pattern)
    (hnames : (properties.flatMap Node.boundNames).Nodup)
    (hlocal : ∀ name ∈ properties.flatMap Node.boundNames, name ∉ runtimeVariables.map Prod.snd)
    (runtimes : List Runtime) {V : Type} (object : Fields V) :
    ∃ (added : List String) (widened : FlatPattern),
      (widenProperties runtimes properties).1 = added ∧
      flatPattern? (widenProperties runtimes properties).2 = some widened ∧
      (∀ field ∈ pattern.fields,
        (widened.takeApart object).lookup field.2 = (pattern.takeApart object).lookup field.2) ∧
      (∀ name ∈ pattern.rest, ∃ left : Fields V,
        (pattern.takeApart object).lookup name = some (.rest left) ∧
        (widened.takeApart object).lookup name = some (.rest (left.without added))) ∧
      ((∀ name ∈ properties.flatMap Node.boundNames,
          (widened.takeApart object).lookup name = (pattern.takeApart object).lookup name) ↔
        pattern.rest = none ∨ ∀ key ∈ added, key ∉ object) := by
  rw [flatMap_boundNames_of_flatPattern? hflat] at hnames hlocal ⊢
  have hnew : ∀ name ∈ pattern.names,
      name ∉ (widenProperties runtimes properties).1.map runtimeVariable := by
    intro name hname hadded
    obtain ⟨key, hkey, rfl⟩ := List.mem_map.1 hadded
    obtain ⟨⟨r, -, hr⟩, -⟩ := mem_widenProperties_fst_iff.1 hkey
    exact hlocal _ hname (List.mem_map_of_mem (f := Prod.snd) (mem_runtimeVariables hr))
  refine ⟨_, _, rfl, flatPattern?_widenProperties runtimes hflat, ?_, ?_, ?_⟩
  · intro field hfield
    exact pattern.lookup_takeApart_extend_of_mem object _ hfield
  · intro name hrest
    have hfield := FlatPattern.not_mem_fields_of_rest hrest hnames
    have hmem : name ∈ pattern.names := List.mem_append_right _ (Option.mem_toList.2 hrest)
    exact ⟨_, FlatPattern.lookup_takeApart_rest object hrest hfield,
      FlatPattern.lookup_takeApart_extend_rest object hrest hfield (hnew name hmem)⟩
  · exact FlatPattern.lookup_takeApart_extend_eq_iff object hnames hnew
      fun _ hkey => not_mem_keys_of_mem_widenProperties hflat hkey

/-- An object with two exports of the production runtime. -/
def twoExports : Fields Nat := List.toFinmap [⟨"jsx", 1⟩, ⟨"jsxs", 2⟩]

/-- The pattern `{jsx: b, ...c}`. -/
def takesRestFlat : FlatPattern := ⟨[("jsx", "b")], some "c"⟩

/-- Widening this pattern leaves the value of its field, and takes the added keys from its rest
element. -/
theorem takeApart_widenProperties_takesRest :
    let properties := [Module.jsxProperty, Module.restElement]
    flatPattern? properties = some takesRestFlat ∧
      (properties.flatMap Node.boundNames).Nodup ∧
      (∀ name ∈ properties.flatMap Node.boundNames, name ∉ runtimeVariables.map Prod.snd) ∧
      ∃ widened : FlatPattern,
        flatPattern? (widenProperties [.production] properties).2 = some widened ∧
        (widened.takeApart twoExports).lookup "b" =
          (takesRestFlat.takeApart twoExports).lookup "b" ∧
        ∃ left : Fields Nat,
          (takesRestFlat.takeApart twoExports).lookup "c" = some (.rest left) ∧
          (widened.takeApart twoExports).lookup "c" =
            some (.rest (left.without ["Fragment", "jsxs"])) := by
  intro properties
  have hflat : flatPattern? properties = some takesRestFlat := rfl
  have hnames : (properties.flatMap Node.boundNames).Nodup := by decide
  have hlocal : ∀ name ∈ properties.flatMap Node.boundNames,
      name ∉ runtimeVariables.map Prod.snd := by
    decide
  obtain ⟨added, widened, hadded, hwidened, hfields, hrest, -⟩ :=
    takeApart_widenProperties hflat hnames hlocal [.production] twoExports
  have hkeys : (widenProperties [.production] properties).1 = ["Fragment", "jsxs"] := by
    decide +kernel
  obtain rfl := hadded.symm.trans hkeys
  refine ⟨hflat, hnames, hlocal, widened, hwidened, hfields ("jsx", "b") List.mem_cons_self, ?_⟩
  exact hrest "c" rfl

/-- **A rest element can lose a value**: `jsxs`, when the production runtime is added to this
pattern. -/
theorem lookup_takeApart_ne_takesRest :
    let properties := [Module.jsxProperty, Module.restElement]
    flatPattern? properties = some takesRestFlat ∧
      (properties.flatMap Node.boundNames).Nodup ∧
      (∀ name ∈ properties.flatMap Node.boundNames, name ∉ runtimeVariables.map Prod.snd) ∧
      "c" ∈ properties.flatMap Node.boundNames ∧
      ∃ widened : FlatPattern,
        flatPattern? (widenProperties [.production] properties).2 = some widened ∧
        (widened.takeApart twoExports).lookup "c" ≠
          (takesRestFlat.takeApart twoExports).lookup "c" := by
  intro properties
  refine ⟨rfl, by decide, by decide, by decide, _,
    flatPattern?_widenProperties [.production] rfl, ?_⟩
  decide +kernel

end HostProps
