import HostProps.Proofs.Occurrences
import HostProps.Proofs.Settings

/-!
# Merging of properties

The sources that options list stand for pairs of a key and a value, and some of these pairs are
kept. Merging goes through the kept pairs once. A key has its place from its first pair and its
value from its last, and these are different pairs in general, so what is merged is told by both
(`Merges`): the keys are the first occurrences, and the pairs are the last ones. One more pair
preserves this, and so does a whole list of them.

## Main results

* `Settings.mergeSources_fst`, `Settings.mergeSources_runtimes`: merging as a fold.
* `Settings.Merges.setProperty`: what one pair does to merged properties.
* `Settings.Merges.foldl`: what a list of pairs does to them.
* `Options.merges_resolve`: the settings that options stand for.
-/

namespace HostProps

namespace Settings

/-! ### Merging as a fold -/

/-- Set a property to a pair. -/
def setPair (properties : List (String × String)) (pair : String × String) :
    List (String × String) :=
  setProperty pair.1 pair.2 properties

/-- The pairs that are kept: those with a value that is an identifier name. -/
def kept (pairs : List (String × String)) : List (String × String) :=
  pairs.filter fun pair => isIdentifierName pair.2

/-- A pair whose value is an identifier name is kept. -/
theorem kept_cons_of_pos {key value : String} (h : isIdentifierName value = true)
    (pairs : List (String × String)) : kept ((key, value) :: pairs) = (key, value) :: kept pairs :=
  List.filter_cons_of_pos h

/-- Any other pair is not. -/
theorem kept_cons_of_neg {key value : String} (h : ¬ isIdentifierName value = true)
    (pairs : List (String × String)) : kept ((key, value) :: pairs) = kept pairs :=
  List.filter_cons_of_neg h

/-- Pairs are kept on their own. -/
theorem kept_append (pairs others : List (String × String)) :
    kept (pairs ++ others) = kept pairs ++ kept others :=
  List.filter_append pairs others

/-- Merging sets the kept pairs one after the other. -/
theorem mergePairs_fst (properties pairs : List (String × String)) :
    (mergePairs properties pairs).1 = (kept pairs).foldl setPair properties := by
  induction pairs generalizing properties with
  | nil => rfl
  | cons pair rest ih =>
      obtain ⟨key, value⟩ := pair
      rw [mergePairs]
      by_cases hvalue : isIdentifierName value = true
      · rw [if_pos hvalue, kept_cons_of_pos hvalue, List.foldl_cons]
        exact ih (setProperty key value properties)
      · rw [if_neg hvalue, kept_cons_of_neg hvalue]
        exact ih properties

/-- Merging sources sets the kept pairs of all of them. -/
theorem mergeSources_fst (properties : List (String × String)) (runtimes : List Runtime)
    (sources : List PropertySource) :
    (mergeSources properties runtimes sources).1 =
      (kept (sources.flatMap PropertySource.pairs)).foldl setPair properties := by
  induction sources generalizing properties runtimes with
  | nil => rfl
  | cons source rest ih =>
      -- The runtimes that are merged alongside have no part in this.
      rw [List.flatMap_cons, kept_append, List.foldl_append, ← mergePairs_fst properties]
      exact ih (mergePairs properties source.pairs).1 _

/-- Merging sources adds the runtimes that they name. -/
theorem mergeSources_runtimes (properties : List (String × String)) (runtimes : List Runtime)
    (sources : List PropertySource) :
    (mergeSources properties runtimes sources).2.1 =
      (sources.filterMap PropertySource.runtime?).foldl addRuntime runtimes := by
  induction sources generalizing properties runtimes with
  | nil => rfl
  | cons source rest ih =>
      cases source with
      | pair key value => exact ih _ runtimes
      | runtime r => exact ih _ (addRuntime runtimes r)

/-! ### Runtimes -/

/-- One more runtime. -/
theorem addRuntime_eraseDups (seen : List Runtime) (r : Runtime) :
    addRuntime seen.eraseDups r = (seen ++ [r]).eraseDups := by
  rw [addRuntime, eraseDups_concat]
  by_cases h : r ∈ seen
  · rw [if_pos h, if_pos (List.contains_iff_mem.2 (List.mem_eraseDups.2 h))]
  · rw [if_neg h, if_neg (mt (fun hr => List.mem_eraseDups.1 (List.contains_iff_mem.1 hr)) h)]

/-- **Runtimes that are added one after the other** are there once, where they occur first. -/
theorem foldl_addRuntime (seen rs : List Runtime) :
    rs.foldl addRuntime seen.eraseDups = (seen ++ rs).eraseDups := by
  induction rs generalizing seen with
  | nil => rw [List.append_nil, List.foldl_nil]
  | cons r rs ih =>
      rw [List.foldl_cons, addRuntime_eraseDups, ih, List.append_assoc]
      rfl

/-! ### Properties -/

/-- The keys after a property is set. -/
theorem keys_setProperty (key value : String) (properties : List (String × String)) :
    (setProperty key value properties).map Prod.fst =
      if key ∈ properties.map Prod.fst then properties.map Prod.fst
      else properties.map Prod.fst ++ [key] := by
  induction properties with
  | nil => rfl
  | cons first rest ih =>
      obtain ⟨k, v⟩ := first
      rw [setProperty]
      by_cases hk : k = key
      · rw [if_pos (beq_iff_eq.2 hk), if_pos (hk ▸ List.mem_cons_self)]
        rfl
      · rw [if_neg (mt beq_iff_eq.1 hk), List.map_cons, ih, List.map_cons]
        by_cases hrest : key ∈ rest.map Prod.fst
        · rw [if_pos hrest, if_pos (List.mem_cons_of_mem k hrest)]
        · rw [if_neg hrest, if_neg (List.not_mem_cons_of_ne_of_not_mem (Ne.symm hk) hrest)]
          rfl

/-- The properties after one is set, if each key is there once: it, and those with other keys. -/
theorem mem_setProperty_iff {key value : String} {properties : List (String × String)}
    (h : (properties.map Prod.fst).Nodup) {pair : String × String} :
    pair ∈ setProperty key value properties ↔
      pair = (key, value) ∨ pair ∈ properties ∧ pair.1 ≠ key := by
  induction properties with
  | nil => simp [setProperty]
  | cons first rest ih =>
      obtain ⟨k, v⟩ := first
      obtain ⟨hfirst, hrest⟩ := List.nodup_cons.1 h
      rw [setProperty]
      by_cases hk : k = key
      · subst hk
        rw [if_pos (beq_self_eq_true k), List.mem_cons, List.mem_cons]
        -- No later property has the key of the first.
        have hother : pair ∈ rest → pair.1 ≠ k :=
          fun hpair heq => hfirst (List.mem_map.2 ⟨pair, hpair, heq⟩)
        constructor
        · rintro (hpair | hpair)
          · exact .inl hpair
          · exact .inr ⟨.inr hpair, hother hpair⟩
        · rintro (hpair | ⟨rfl | hpair, hne⟩)
          · exact .inl hpair
          · exact (hne rfl).elim
          · exact .inr hpair
      · rw [if_neg (mt beq_iff_eq.1 hk), List.mem_cons, List.mem_cons, ih hrest]
        constructor
        · rintro (rfl | hpair | ⟨hpair, hne⟩)
          · exact .inr ⟨.inl rfl, hk⟩
          · exact .inl hpair
          · exact .inr ⟨.inr hpair, hne⟩
        · rintro (hpair | ⟨rfl | hpair, hne⟩)
          · exact .inr (.inl hpair)
          · exact .inl rfl
          · exact .inr (.inr ⟨hpair, hne⟩)

/-- Some properties are what given pairs are merged to. -/
structure Merges (given properties : List (String × String)) : Prop where
  /-- The keys are those given, each where it occurs first. -/
  keys : properties.map Prod.fst = (given.map Prod.fst).eraseDups
  /-- The pairs are those that occur last. -/
  mem_iff : ∀ pair, pair ∈ properties ↔ IsLast given pair

namespace Merges

variable {given properties : List (String × String)}

/-- Nothing is merged to nothing. -/
theorem nil : Merges [] [] where
  keys := rfl
  mem_iff pair := by
    constructor
    · rintro ⟨⟩
    · rintro ⟨before, after, heq, -⟩
      exact (List.append_ne_nil_of_right_ne_nil before (List.cons_ne_nil _ _) heq.symm).elim

/-- Each key is there once. -/
theorem nodup (h : Merges given properties) : (properties.map Prod.fst).Nodup := by
  rw [h.keys]
  exact nodup_eraseDups _

/-- **One more pair.** -/
theorem setProperty (h : Merges given properties) (pair : String × String) :
    Merges (given ++ [pair]) (setPair properties pair) where
  keys := by
    rw [setPair, keys_setProperty, h.keys, List.map_append, List.map_singleton, eraseDups_concat]
    exact if_congr List.mem_eraseDups rfl rfl
  mem_iff other := by
    rw [setPair, mem_setProperty_iff h.nodup, isLast_concat_iff, h.mem_iff]

/-- **A list of pairs** is merged one after the other. -/
theorem foldl (h : Merges given properties) (pairs : List (String × String)) :
    Merges (given ++ pairs) (pairs.foldl setPair properties) := by
  induction pairs generalizing given properties with
  | nil =>
      rw [List.append_nil]
      exact h
  | cons pair pairs ih =>
      have hpair := ih (h.setProperty pair)
      rw [List.append_assoc] at hpair
      exact hpair

end Merges

end Settings

namespace Options

/-- The pairs that options list, with the keys of runtimes in the place of each runtime. -/
def givenPairs (o : Options) : List (String × String) :=
  (o.propertiesToInject.getD []).flatMap PropertySource.pairs

/-- The properties are the kept pairs, set one after the other. -/
theorem properties_resolve (o : Options) :
    o.resolve.1.properties = (Settings.kept o.givenPairs).foldl Settings.setPair [] :=
  Settings.mergeSources_fst [] [] _

/-- The runtimes are those that the options name, where they occur first. -/
theorem runtimes_resolve (o : Options) :
    o.resolve.1.runtimes =
      ((o.propertiesToInject.getD []).filterMap PropertySource.runtime?).eraseDups :=
  (Settings.mergeSources_runtimes [] [] _).trans (Settings.foldl_addRuntime [] _)

/-- **A pair that is not kept makes no difference** to the properties, wherever it stands. -/
theorem properties_resolve_congr {o o' : Options} {before after : List PropertySource}
    {key value : String} (h : o.propertiesToInject = some (before ++ .pair key value :: after))
    (h' : o'.propertiesToInject = some (before ++ after))
    (hvalue : ¬ isIdentifierName value = true) :
    o.resolve.1.properties = o'.resolve.1.properties := by
  have hgiven : o.givenPairs =
      before.flatMap PropertySource.pairs ++
        (key, value) :: after.flatMap PropertySource.pairs := by
    rw [givenPairs, h, Option.getD_some, List.flatMap_append, List.flatMap_cons]
    rfl
  rw [properties_resolve, properties_resolve, hgiven, givenPairs, h', Option.getD_some,
    List.flatMap_append, Settings.kept_append, Settings.kept_append,
    Settings.kept_cons_of_neg hvalue]

/-- **Options are merged correctly.** Let the given pairs be those that the options list, with the
keys of runtimes in place, and let those with an identifier name as their value be kept. Then in the
settings

* each key is there once, and the keys are those of the kept pairs in the order of their first
  occurrence;
* each key has the value of its last occurrence in the kept pairs, and so a pair that is not kept
  neither changes a value nor takes a place;
* the runtimes are those that the options name, each once, in the order of first occurrence;
* the arguments are the identifier names that the options list, repeated ones included. -/
theorem merges_resolve (o : Options) :
    (o.resolve.1.properties.map Prod.fst).Nodup ∧
      o.resolve.1.properties.map Prod.fst =
        ((Settings.kept o.givenPairs).map Prod.fst).eraseDups ∧
      (∀ pair, pair ∈ o.resolve.1.properties ↔ IsLast (Settings.kept o.givenPairs) pair) ∧
      (∀ (o' : Options) (before after : List PropertySource) (key value : String),
        o.propertiesToInject = some (before ++ .pair key value :: after) →
        o'.propertiesToInject = some (before ++ after) →
        ¬ isIdentifierName value = true →
        o.resolve.1.properties = o'.resolve.1.properties) ∧
      o.resolve.1.runtimes.Nodup ∧
      o.resolve.1.runtimes =
        ((o.propertiesToInject.getD []).filterMap PropertySource.runtime?).eraseDups ∧
      o.resolve.1.arguments = (o.argumentsToAdd.getD []).filter isIdentifierName := by
  have hmerges : Settings.Merges (Settings.kept o.givenPairs) o.resolve.1.properties := by
    rw [properties_resolve]
    exact Settings.Merges.nil.foldl _
  refine ⟨hmerges.nodup, hmerges.keys, hmerges.mem_iff, ?_, ?_, o.runtimes_resolve,
    o.arguments_resolve⟩
  · intro o' before after key value h h' hvalue
    exact properties_resolve_congr h h' hvalue
  · rw [runtimes_resolve]
    exact nodup_eraseDups _

/-- Options that list some keys more than once, and one of them with a value that is not kept. -/
def overlapping : Options :=
  ⟨none, some [.pair "a" "x", .runtime .production, .pair "a" "", .pair "jsx" "y",
    .runtime .development], none⟩

/-- The same options without it. -/
def shortened : Options :=
  ⟨none, some [.pair "a" "x", .runtime .production, .pair "jsx" "y", .runtime .development], none⟩

/-- The pairs that are kept of these options. -/
theorem kept_overlapping :
    ¬ isIdentifierName "" = true ∧
      Settings.kept overlapping.givenPairs =
        [("a", "x"), ("Fragment", "_Fragment"), ("jsx", "_jsx"), ("jsxs", "_jsxs"), ("jsx", "y"),
          ("Fragment", "_Fragment"), ("jsxDev", "_jsxDev")] := by
  decide +kernel

/-- In these settings `jsx` has its place from a runtime and its value from the list, and `a` keeps
the value that can be kept. -/
theorem merges_resolve_overlapping :
    overlapping.resolve.1.properties.map Prod.fst = ["a", "Fragment", "jsx", "jsxs", "jsxDev"] ∧
      ("jsx", "y") ∈ overlapping.resolve.1.properties ∧
      ("a", "x") ∈ overlapping.resolve.1.properties ∧
      overlapping.resolve.1.properties = shortened.resolve.1.properties ∧
      overlapping.resolve.1.runtimes = [.production, .development] := by
  obtain ⟨-, hkeys, hlast, hignored, -, hruntimes, -⟩ := overlapping.merges_resolve
  obtain ⟨hvalue, hkept⟩ := kept_overlapping
  rw [hkept] at hkeys hlast
  have hsame := hignored shortened [.pair "a" "x", .runtime .production]
    [.pair "jsx" "y", .runtime .development] "a" "" rfl rfl hvalue
  refine ⟨hkeys.trans (by decide), (hlast _).2 ?_, (hlast _).2 ?_, hsame,
    hruntimes.trans (by decide)⟩
  · exact ⟨[("a", "x"), ("Fragment", "_Fragment"), ("jsx", "_jsx"), ("jsxs", "_jsxs")],
      [("Fragment", "_Fragment"), ("jsxDev", "_jsxDev")], rfl, by decide⟩
  · exact ⟨[], _, rfl, by decide⟩

end Options

end HostProps
