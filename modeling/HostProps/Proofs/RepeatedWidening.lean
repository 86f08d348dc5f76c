import HostProps.Proofs.ExactWidening

/-!
# Widening again

A module that has been widened has the same first pattern that takes the first argument apart, with
more properties. Widening it again finds the keys that were added before, so it adds only those that
are still missing, behind the ones added before and in front of the same rest element. So widening
for some runtimes and then for others is widening for all of them at once, and widening for runtimes
that have been seen to changes nothing.

## Main results

* `widenProperties_append`: one widening of a pattern after another.
* `Module.addRuntimeExports_append`: one widening of a module after another.
* `absentKeys_perm`: the order of the runtimes does not matter.
* `Module.addRuntimeExports_again`: all of it, for modules.
-/

namespace HostProps

/-! ### The keys of a widened pattern -/

/-- The pair that is added for a key has this key alone. -/
theorem hasKey_generatedPatternPair_iff {key name k : String} :
    (Node.generatedPatternPair key name).HasKey k ↔ k = key := by
  have hkey := Node.patternKey?_eq_some_iff.2 (hasKey_generatedPatternPair key name)
  rw [← Node.patternKey?_eq_some_iff, hkey, Option.some.injEq]
  exact eq_comm

variable (runtimes more : List Runtime) (properties : List Node)

/-- **The keys of a widened pattern** are those that it had and those that were added. -/
theorem exists_hasKey_widenProperties_iff {key : String} :
    (∃ p ∈ (widenProperties runtimes properties).2, p.HasKey key) ↔
      (∃ p ∈ properties, p.HasKey key) ∨ key ∈ (widenProperties runtimes properties).1 := by
  obtain ⟨before, after, heq, hwidened⟩ := exists_widenProperties runtimes properties
  have hpairs : (∃ p ∈ exportPairs (widenProperties runtimes properties).1, p.HasKey key) ↔
      key ∈ (widenProperties runtimes properties).1 := by
    simp [exportPairs, hasKey_generatedPatternPair_iff]
  rw [hwidened]
  simp only [List.mem_append, or_and_right, exists_or, hpairs]
  rw [heq]
  simp only [List.mem_append, or_and_right, exists_or]
  exact or_right_comm

/-- **The keys that are added for more runtimes**: first those for the former, then those for the
latter that are missing still. -/
theorem absentKeys_append :
    absentKeys (runtimes ++ more) properties =
      absentKeys runtimes properties ++ absentKeys more (widenProperties runtimes properties).2 := by
  have hstill : ∀ key, (¬ ∃ p ∈ (widenProperties runtimes properties).2, p.HasKey key) ↔
      (¬ ∃ p ∈ properties, p.HasKey key) ∧
        key ∉ (runtimes.flatMap Runtime.keys).filter fun key => ¬ ∃ p ∈ properties, p.HasKey key := by
    intro key
    rw [exists_hasKey_widenProperties_iff, not_or, widenProperties_fst, absentKeys,
      List.mem_eraseDups]
  rw [absentKeys, absentKeys, absentKeys, List.flatMap_append, List.filter_append,
    List.eraseDups_append, List.removeAll, List.filter_filter]
  refine congrArg (fun keep => _ ++ (List.filter keep _).eraseDups) (funext fun key => ?_)
  -- The keys that come twice are those that the first widening added.
  rw [Bool.eq_iff_iff, decide_eq_true_iff, hstill, and_comm]
  simp only [Bool.and_eq_true, Bool.not_eq_true', decide_eq_true_iff, ← Bool.not_eq_true,
    List.elem_iff]

/-! ### The properties of a widened pattern -/

/-- Without runtimes, the properties of a pattern stay. -/
theorem widenProperties_nil : widenProperties [] properties = ([], properties) :=
  Prod.ext rfl (by simp [widenProperties, missingKeys, List.takeWhile_append_dropWhile])

/-- **One widening of a pattern after another** is one widening for all runtimes. -/
theorem widenProperties_append :
    widenProperties (runtimes ++ more) properties =
      ((widenProperties runtimes properties).1 ++
          (widenProperties more (widenProperties runtimes properties).2).1,
        (widenProperties more (widenProperties runtimes properties).2).2) := by
  have hkeys : (widenProperties (runtimes ++ more) properties).1 =
      (widenProperties runtimes properties).1 ++
        (widenProperties more (widenProperties runtimes properties).2).1 := by
    simp only [widenProperties_fst, absentKeys_append]
  obtain ⟨hfront, hrest⟩ := span_isRest_widenProperties runtimes properties
  refine Prod.ext hkeys ?_
  rw [widenProperties_span, widenProperties_span more, hkeys, hfront, hrest]
  simp only [exportPairs, List.map_append, List.append_assoc]

/-- Widening again for runtimes that have been seen to changes nothing. -/
theorem widenProperties_of_subset (hmore : more ⊆ runtimes) :
    widenProperties more (widenProperties runtimes properties).2 =
      ([], (widenProperties runtimes properties).2) := by
  have hnone : (widenProperties more (widenProperties runtimes properties).2).1 = [] := by
    rw [List.eq_nil_iff_forall_not_mem]
    intro key hkey
    obtain ⟨⟨r, hr, hrkey⟩, habsent⟩ := mem_widenProperties_fst_iff.1 hkey
    exact habsent (exists_hasKey_widenProperties properties (hmore hr) hrkey)
  refine Prod.ext hnone ?_
  rw [widenProperties_span more, hnone]
  simp [exportPairs]

/-- **The order of the runtimes does not matter** for which keys are added. -/
theorem absentKeys_perm {runtimes more : List Runtime} (h : ∀ r, r ∈ runtimes ↔ r ∈ more) :
    (absentKeys runtimes properties).Perm (absentKeys more properties) := by
  refine (List.perm_ext_iff_of_nodup (nodup_eraseDups _) (nodup_eraseDups _)).2 fun key => ?_
  rw [← absentKeys, ← absentKeys, mem_absentKeys_iff, mem_absentKeys_iff]
  simp only [h]

/-! ### Modules -/

namespace PatternPlace

variable {place : PatternPlace} {m : Module} {runtimes properties}

/-- The first place stays the first one with other properties in it. -/
theorem IsFirst.fill (h : place.IsFirst m properties) (widened : List Node) :
    place.IsFirst { m with body := place.fill widened } widened :=
  ⟨rfl, h.init, h.ahead⟩

/-- The statement at the first place is widened, and none in front of it. -/
theorem IsFirst.editFirst?_eq (h : place.IsFirst m properties) :
    editFirst? (Node.widenStatement? runtimes) m.body =
      some ((widenProperties runtimes properties).1,
        place.fill (widenProperties runtimes properties).2) := by
  rw [h.body, PatternPlace.fill, PatternPlace.fill]
  refine editFirst?_eq_some_iff.2 ⟨place.before, _, _, place.after, rfl, rfl, ?_, ?_⟩
  · refine Node.widenStatement?_eq_some_iff.2 ⟨_, _, _, _, rfl, ?_, rfl⟩
    refine editFirst?_eq_some_iff.2 ⟨place.declaratorsBefore, _, _, _, rfl, rfl, ?_, ?_⟩
    · exact Node.widenDeclarator?_eq_some_iff.2
        ⟨_, _, _, _, rfl, Node.isFirstArgument_iff.2 h.init, rfl, rfl⟩
    · exact fun d hd => Node.widenDeclarator?_eq_none_iff.2
        (h.ahead d (List.mem_append_right _ hd))
  · intro n hn
    refine Node.widenStatement?_eq_none_iff.2 fun d hd => h.ahead d (List.mem_append_left _ ?_)
    exact List.mem_flatMap.2 ⟨n, hn, hd⟩

/-- **Widening at the first place**, for whatever runtimes. -/
theorem IsFirst.addRuntimeExports_eq (h : place.IsFirst m properties) :
    m.addRuntimeExports runtimes =
      ((widenProperties runtimes properties).1,
        { m with body := place.fill (widenProperties runtimes properties).2 },
        (widenProperties runtimes properties).1.map exportAddedEvent) := by
  rw [Module.addRuntimeExports_eq, h.editFirst?_eq]
  split
  · -- Without runtimes the properties stay, so the place is filled with what it holds.
    rename_i hruntimes
    rw [List.isEmpty_iff.1 hruntimes, widenProperties_nil, ← h.body]
    rfl
  · rfl

end PatternPlace

namespace Module

/-- A place for a pattern is the first one, or there is none. -/
theorem exists_isFirst_or_forall_not (m : Module) :
    (∃ (place : PatternPlace) (properties : List Node), place.IsFirst m properties) ∨
      ∀ d ∈ m.declarators, ∀ properties, ¬ d.TakesApart properties := by
  by_cases h : ∃ d ∈ m.declarators, ∃ properties, d.TakesApart properties
  · obtain ⟨place, properties, hplace, -, -⟩ :=
      m.exists_isFirst (List.cons_ne_nil Runtime.production []) h
    exact .inl ⟨place, properties, hplace⟩
  · exact .inr fun d hd properties hproperties => h ⟨d, hd, properties, hproperties⟩

/-- **One widening of a module after another** is one widening for all runtimes: the keys and the
events of the former come first. -/
theorem addRuntimeExports_append (m : Module) (runtimes more : List Runtime) :
    m.addRuntimeExports (runtimes ++ more) =
      let first := m.addRuntimeExports runtimes
      let second := first.2.1.addRuntimeExports more
      (first.1 ++ second.1, second.2.1, first.2.2 ++ second.2.2) := by
  obtain ⟨place, properties, hplace⟩ | hnone := m.exists_isFirst_or_forall_not
  · have hwidened := hplace.fill (widenProperties runtimes properties).2
    rw [hplace.addRuntimeExports_eq, hplace.addRuntimeExports_eq]
    simp only [hwidened.addRuntimeExports_eq, widenProperties_append, List.map_append]
  · simp only [m.addRuntimeExports_of_forall_not hnone, List.append_nil]

/-- Widening again for runtimes that have been seen to changes nothing. -/
theorem addRuntimeExports_of_subset (m : Module) {runtimes more : List Runtime}
    (hmore : more ⊆ runtimes) :
    let first := m.addRuntimeExports runtimes
    first.2.1.addRuntimeExports more = ([], first.2.1, []) := by
  obtain ⟨place, properties, hplace⟩ | hnone := m.exists_isFirst_or_forall_not
  · have hwidened := hplace.fill (widenProperties runtimes properties).2
    simp only [hplace.addRuntimeExports_eq, hwidened.addRuntimeExports_eq,
      widenProperties_of_subset _ _ properties hmore, List.map_nil]
  · simp only [m.addRuntimeExports_of_forall_not hnone]

/-- The order of the runtimes does not matter for which keys are added to a module. -/
theorem addRuntimeExports_perm (m : Module) {runtimes more : List Runtime}
    (h : ∀ r, r ∈ runtimes ↔ r ∈ more) :
    (m.addRuntimeExports runtimes).1.Perm (m.addRuntimeExports more).1 := by
  obtain ⟨place, properties, hplace⟩ | hnone := m.exists_isFirst_or_forall_not
  · rw [hplace.addRuntimeExports_eq, hplace.addRuntimeExports_eq, widenProperties_fst,
      widenProperties_fst]
    exact absentKeys_perm properties h
  · rw [m.addRuntimeExports_of_forall_not hnone, m.addRuntimeExports_of_forall_not hnone]

/-- **Widening composes and is idempotent.** For every module and all runtimes:

* widening for some runtimes and then for others gives the module that widening for all of them
  gives; the keys that were added, and the events, are those of one run after those of the other;
* widening again, for runtimes that have been seen to, changes nothing and adds no key;
* widening for the same runtimes in another order, or with some of them given more often, adds the
  same keys. -/
theorem addRuntimeExports_again (m : Module) (runtimes more : List Runtime) :
    (((m.addRuntimeExports runtimes).2.1.addRuntimeExports more).2.1 =
        (m.addRuntimeExports (runtimes ++ more)).2.1 ∧
      (m.addRuntimeExports runtimes).1 ++
          ((m.addRuntimeExports runtimes).2.1.addRuntimeExports more).1 =
        (m.addRuntimeExports (runtimes ++ more)).1 ∧
      (m.addRuntimeExports runtimes).2.2 ++
          ((m.addRuntimeExports runtimes).2.1.addRuntimeExports more).2.2 =
        (m.addRuntimeExports (runtimes ++ more)).2.2) ∧
    (more ⊆ runtimes →
      ((m.addRuntimeExports runtimes).2.1.addRuntimeExports more).1 = [] ∧
      ((m.addRuntimeExports runtimes).2.1.addRuntimeExports more).2.1 =
        (m.addRuntimeExports runtimes).2.1) ∧
    ((∀ r, r ∈ runtimes ↔ r ∈ more) →
      (m.addRuntimeExports runtimes).1.Perm (m.addRuntimeExports more).1) := by
  refine ⟨?_, ?_, m.addRuntimeExports_perm⟩
  · rw [m.addRuntimeExports_append runtimes more]
    exact ⟨rfl, rfl, rfl⟩
  · intro hmore
    have hagain := m.addRuntimeExports_of_subset hmore
    simp only at hagain
    rw [hagain]
    exact ⟨rfl, rfl⟩

/-- The keys of two runtimes are added once, whichever of them is seen to first. -/
theorem addRuntimeExports_again_takesRest :
    let first := takesRest.addRuntimeExports [.production, .development]
    let second := first.2.1.addRuntimeExports [.development, .production]
    [Runtime.development, .production] ⊆ [.production, .development] ∧
      (∀ r : Runtime, r ∈ [Runtime.production, .development] ↔
        r ∈ [Runtime.development, .production]) ∧
      first.1 = ["Fragment", "jsxs", "jsxDev"] ∧ second.1 = [] ∧ second.2.1 = first.2.1 ∧
      (takesRest.addRuntimeExports [.development, .production]).1.Perm first.1 := by
  have hsubset : [Runtime.development, .production] ⊆ [.production, .development] := by decide
  have hsame : ∀ r : Runtime, r ∈ [Runtime.production, .development] ↔
      r ∈ [Runtime.development, .production] := by
    intro r
    cases r <;> decide
  obtain ⟨-, hagain, hperm⟩ :=
    takesRest.addRuntimeExports_again [.production, .development] [.development, .production]
  have hkeys : (takesRest.addRuntimeExports [.production, .development]).1 =
      ["Fragment", "jsxs", "jsxDev"] := by
    decide +kernel
  exact ⟨hsubset, hsame, hkeys, (hagain hsubset).1, (hagain hsubset).2, (hperm hsame).symm⟩

end Module

end HostProps
