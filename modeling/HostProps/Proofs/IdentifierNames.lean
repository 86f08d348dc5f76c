import HostProps.Proofs.LegalNames
import HostProps.Proofs.Merging

/-!
# Which Names are Accepted

The grammar of identifier names (`IsName`) has the dollar sign in every place. The check goes
through the characters of a string with two classes of characters, one for the first place and one
for all later places, and only the first of them has the dollar sign: `$a` is accepted and `a$` is
not. In all else the check is the grammar, because no other character is missing from either class
and none is too many.

So a name of the grammar is refused if and only if it has a dollar sign after its first character,
and just these names are lost where names are filtered: among the arguments and the values that
options list, and among the names that insertion is given.

## Main results

* `continuesName_iff`: the characters that a name may go on with.
* `isIdentifierName_iff`: the check against the grammar.
* `isIdentifierName_exact`: what it comes to where names are filtered.
-/

namespace HostProps

/-! ### The check and the grammar -/

/-- The first characters that the check accepts are those of the grammar. -/
theorem startsName_iff {c : Char} :
    startsName c = true ↔ c = '$' ∨ c = '_' ∨ isIdStart c = true := by
  simp [startsName, or_assoc]

/-- A table is searched from its first range to its last. -/
theorem inRanges_eq_any (table : Array (Nat × Nat)) (code : Nat) :
    inRanges table code = table.toList.any fun (lo, hi) =>
      decide (lo ≤ code) && decide (code ≤ hi) := by
  rw [Array.any_toList]
  rfl

/-- The dollar sign continues no identifier by its Unicode properties. -/
theorem isIdContinue_dollar : isIdContinue '$' = false := by
  rw [isIdContinue, isIdStart, inRanges_eq_any, inRanges_eq_any]
  decide +kernel

/-- **The later characters that the check accepts** are those of the grammar but for the dollar
sign. -/
theorem continuesName_iff {c : Char} :
    continuesName c = true ↔
      (c = '$' ∨ c = '\u200c' ∨ c = '\u200d' ∨ isIdContinue c = true) ∧ c ≠ '$' := by
  have hclass : continuesName c = true ↔
      c = '\u200c' ∨ c = '\u200d' ∨ isIdContinue c = true := by
    simp [continuesName, or_assoc]
  rw [hclass]
  constructor
  · intro h
    refine ⟨.inr h, ?_⟩
    rintro rfl
    obtain h | h | h := h
    · exact absurd h (by decide)
    · exact absurd h (by decide)
    · rw [isIdContinue_dollar] at h
      cases h
  · rintro ⟨h, hdollar⟩
    exact h.resolve_left hdollar

/-- **The check against the grammar**: it accepts the names without a dollar sign after the first
character. -/
theorem isIdentifierName_iff {s : String} :
    isIdentifierName s = true ↔ IsName s ∧ '$' ∉ s.toList.tail := by
  rw [isIdentifierName, IsName]
  cases s.toList with
  | nil => simp
  | cons c rest =>
      have hgrammar : (∃ c' rest', c :: rest = c' :: rest' ∧
            (c' = '$' ∨ c' = '_' ∨ isIdStart c' = true) ∧
            ∀ d ∈ rest', d = '$' ∨ d = '\u200c' ∨ d = '\u200d' ∨ isIdContinue d = true) ↔
          (c = '$' ∨ c = '_' ∨ isIdStart c = true) ∧
            ∀ d ∈ rest, d = '$' ∨ d = '\u200c' ∨ d = '\u200d' ∨ isIdContinue d = true := by
        constructor
        · rintro ⟨_, _, heq, h⟩
          obtain ⟨rfl, rfl⟩ := List.cons.inj heq
          exact h
        · exact fun h => ⟨c, rest, rfl, h⟩
      have hdollar : '$' ∉ rest ↔ ∀ d ∈ rest, d ≠ '$' := List.forall_mem_ne'.symm
      rw [hgrammar, Bool.and_eq_true_iff, startsName_iff, List.all_eq_true, List.tail_cons, hdollar,
        and_assoc, ← forall₂_and]
      exact and_congr_right fun _ => forall₂_congr fun _ _ => continuesName_iff

/-- The string `a$` is a name that the check refuses. -/
theorem not_isIdentifierName_iff_laterDollar :
    ¬ (isIdentifierName "a$" = true ↔ IsName "a$") := by
  have hname : IsName "a$" := by
    refine ⟨'a', ['$'], by decide, .inr (.inr (by rw [isIdStart, inRanges_eq_any]; rfl)), ?_⟩
    rw [List.forall_mem_singleton]
    exact .inl rfl
  intro h
  exact (isIdentifierName_iff.1 (h.2 hname)).2 (by decide)

/-! ### Where names are filtered -/

/-- The keys of the properties are those of a pair that is kept. -/
theorem Options.mem_keys_resolve_iff {o : Options} {key : String} :
    key ∈ o.resolve.1.properties.map Prod.fst ↔
      ∃ value, (key, value) ∈ o.givenPairs ∧ isIdentifierName value = true := by
  have hmerges : Settings.Merges (Settings.kept o.givenPairs) o.resolve.1.properties := by
    rw [o.properties_resolve]
    exact Settings.Merges.nil.foldl _
  rw [hmerges.keys, List.mem_eraseDups, Settings.kept]
  simp only [List.mem_map, List.mem_filter, Prod.exists, exists_and_right, exists_eq_right]

/-- What insertion declares are the names that the check accepts, if there is a place for them. -/
theorem Module.mem_declaredArguments_iff {m : Module} {names : List String} {name : String} :
    name ∈ m.declaredArguments names ↔
      name ∈ names ∧ isIdentifierName name = true ∧
        ∃ n ∈ m.body, n.isVariableDeclaration = true := by
  rw [declaredArguments]
  split
  · rename_i h
    rw [List.mem_filter, and_iff_left (List.any_eq_true.1 h)]
  · rename_i h
    rw [List.any_eq_true] at h
    exact iff_of_false List.not_mem_nil fun hname => h hname.2.2

/-- **The check is exact but for dollar signs.** It agrees with the grammar on a string unless this
is a name of the grammar with a dollar sign after its first character, and all such names are
refused. So

* of the arguments that options list, the settings have the names of the grammar without such a
  dollar sign;
* of the pairs that options list, the settings have the keys of those with such a name as their
  value;
* of the names that it is given, insertion declares these, if there is a place for declarations. -/
theorem isIdentifierName_exact (s key : String) (o : Options) (m : Module) (names : List String) :
    ((isIdentifierName s = true ↔ IsName s) ↔ ¬(IsName s ∧ '$' ∈ s.toList.tail)) ∧
      (isIdentifierName s = true ↔ IsName s ∧ '$' ∉ s.toList.tail) ∧
      (s ∈ o.resolve.1.arguments ↔
        s ∈ o.argumentsToAdd.getD [] ∧ IsName s ∧ '$' ∉ s.toList.tail) ∧
      (key ∈ o.resolve.1.properties.map Prod.fst ↔
        ∃ value, (key, value) ∈ o.givenPairs ∧ IsName value ∧ '$' ∉ value.toList.tail) ∧
      (s ∈ m.declaredArguments names ↔
        s ∈ names ∧ (IsName s ∧ '$' ∉ s.toList.tail) ∧
          ∃ n ∈ m.body, n.isVariableDeclaration = true) := by
  refine ⟨?_, isIdentifierName_iff, ?_, ?_, ?_⟩
  · rw [isIdentifierName_iff, not_and, and_iff_left_iff_imp]
  · rw [o.arguments_resolve, List.mem_filter, isIdentifierName_iff]
  · rw [o.mem_keys_resolve_iff]
    exact exists_congr fun value => and_congr_right fun _ => isIdentifierName_iff
  · rw [Module.mem_declaredArguments_iff, isIdentifierName_iff]

end HostProps
