import HostProps.Options

/-!
# Settings

What holds of the settings that options are resolved to, by induction on the sources of properties.

## Main results

* `Options.runtimes_resolve_eq_nil`: no runtimes without properties.
* `Options.arguments_resolve`: the arguments of the settings.
* `Options.exists_source_of_mem_resolve`: where the properties of the settings come from.
* `Options.mem_runtimes_resolve_iff`: the runtimes of the settings.
-/

namespace HostProps

namespace Settings

/-- Some property is there after one is set. -/
theorem setProperty_ne_nil (key value : String) (properties : List (String × String)) :
    setProperty key value properties ≠ [] := by
  rw [setProperty.eq_def]
  split
  · exact List.cons_ne_nil _ _
  · split <;> exact List.cons_ne_nil _ _

/-- Merging drops no properties, and keeps a pair whose value is an identifier name. -/
theorem mergePairs_ne_nil {properties pairs : List (String × String)}
    (h : properties ≠ [] ∨ ∃ pair ∈ pairs, isIdentifierName pair.2 = true) :
    (mergePairs properties pairs).1 ≠ [] := by
  induction pairs generalizing properties with
  | nil =>
      obtain h | ⟨pair, hpair, -⟩ := h
      · exact h
      · cases hpair
  | cons pair rest ih =>
      obtain ⟨key, value⟩ := pair
      rw [mergePairs]
      cases hvalue : isIdentifierName value with
      | true => exact ih (.inl (setProperty_ne_nil key value properties))
      | false =>
          refine ih ?_
          obtain h | ⟨pair, hpair, hname⟩ := h
          · exact .inl h
          · obtain rfl | hpair := List.mem_cons.1 hpair
            · rw [hvalue] at hname
              cases hname
            · exact .inr ⟨pair, hpair, hname⟩

/-- Each runtime stands for a property that is kept. -/
theorem exists_mem_pairs_runtime (r : Runtime) :
    ∃ pair ∈ r.pairs, isIdentifierName pair.2 = true := by
  cases r with
  | production => exact ⟨("Fragment", "_Fragment"), by decide, by decide +kernel⟩
  | development => exact ⟨("Fragment", "_Fragment"), by decide, by decide +kernel⟩

/-- Where there are no properties there are no runtimes, while sources are merged. -/
theorem runtimes_mergeSources {properties : List (String × String)} {runtimes : List Runtime}
    (h : properties = [] → runtimes = []) (sources : List PropertySource) :
    (mergeSources properties runtimes sources).1 = [] →
      (mergeSources properties runtimes sources).2.1 = [] := by
  induction sources generalizing properties runtimes with
  | nil => exact h
  | cons source rest ih =>
      rw [mergeSources]
      refine ih ?_
      intro hmerged
      cases source with
      | pair key value =>
          by_cases hproperties : properties = []
          · exact h hproperties
          · exact (mergePairs_ne_nil (.inl hproperties) hmerged).elim
      | runtime r => exact (mergePairs_ne_nil (.inr (exists_mem_pairs_runtime r)) hmerged).elim

/-- After a property is set, there are it and properties that were there. -/
theorem mem_setProperty {key value : String} {properties : List (String × String)}
    {pair : String × String} (h : pair ∈ setProperty key value properties) :
    pair = (key, value) ∨ pair ∈ properties := by
  induction properties with
  | nil => exact .inl (List.mem_singleton.1 h)
  | cons first rest ih =>
      obtain ⟨k, v⟩ := first
      rw [setProperty] at h
      by_cases hk : (k == key) = true
      · rw [if_pos hk] at h
        obtain rfl | h := List.mem_cons.1 h
        · exact .inl (by rw [eq_of_beq hk])
        · exact .inr (List.mem_cons_of_mem _ h)
      · rw [if_neg hk] at h
        obtain rfl | h := List.mem_cons.1 h
        · exact .inr List.mem_cons_self
        · exact (ih h).imp_right (List.mem_cons_of_mem _)

/-- A merged property was there or is one of the pairs, and then its value is an identifier name. -/
theorem mem_mergePairs {properties pairs : List (String × String)} {pair : String × String}
    (h : pair ∈ (mergePairs properties pairs).1) :
    pair ∈ properties ∨ pair ∈ pairs ∧ isIdentifierName pair.2 = true := by
  induction pairs generalizing properties with
  | nil => exact .inl h
  | cons first rest ih =>
      obtain ⟨key, value⟩ := first
      rw [mergePairs] at h
      cases hvalue : isIdentifierName value with
      | true =>
          rw [if_pos hvalue] at h
          obtain h | ⟨hrest, hname⟩ := ih h
          · obtain rfl | h := mem_setProperty h
            · exact .inr ⟨List.mem_cons_self, hvalue⟩
            · exact .inl h
          · exact .inr ⟨List.mem_cons_of_mem _ hrest, hname⟩
      | false =>
          rw [hvalue] at h
          obtain h | ⟨hrest, hname⟩ := ih h
          · exact .inl h
          · exact .inr ⟨List.mem_cons_of_mem _ hrest, hname⟩

/-- A property was there while sources are merged, or one of the sources stands for it. -/
theorem mem_mergeSources {properties : List (String × String)} {runtimes : List Runtime}
    {sources : List PropertySource} {pair : String × String}
    (h : pair ∈ (mergeSources properties runtimes sources).1) :
    pair ∈ properties ∨
      (∃ source ∈ sources, pair ∈ source.pairs) ∧ isIdentifierName pair.2 = true := by
  induction sources generalizing properties runtimes with
  | nil => exact .inl h
  | cons source rest ih =>
      rw [mergeSources] at h
      obtain h | ⟨⟨other, hother, hpair⟩, hname⟩ := ih h
      · obtain h | ⟨hpair, hname⟩ := mem_mergePairs h
        · exact .inl h
        · exact .inr ⟨⟨source, List.mem_cons_self, hpair⟩, hname⟩
      · exact .inr ⟨⟨other, List.mem_cons_of_mem _ hother, hpair⟩, hname⟩

/-- The runtimes after one was added: it and those that were there. -/
theorem mem_addRuntime_iff {runtimes : List Runtime} {r s : Runtime} :
    s ∈ addRuntime runtimes r ↔ s ∈ runtimes ∨ s = r := by
  rw [addRuntime]
  split
  · rename_i h
    constructor
    · exact .inl
    · rintro (hs | rfl)
      · exact hs
      · exact List.contains_iff_mem.1 h
  · rw [List.mem_append, List.mem_singleton]

/-- The runtimes while sources are merged: those that were there and those that sources name. -/
theorem mem_runtimes_mergeSources_iff {properties : List (String × String)}
    {runtimes : List Runtime} {sources : List PropertySource} {r : Runtime} :
    r ∈ (mergeSources properties runtimes sources).2.1 ↔
      r ∈ runtimes ∨ .runtime r ∈ sources := by
  induction sources generalizing properties runtimes with
  | nil => simp [mergeSources]
  | cons source rest ih =>
      rw [mergeSources]
      cases source with
      | pair key value =>
          refine ih.trans ?_
          simp [PropertySource.runtime?]
      | runtime s =>
          refine ih.trans ?_
          simp [PropertySource.runtime?, mem_addRuntime_iff, or_assoc]

end Settings

/-- **Each property of the settings comes from a source** that the options list, and its value is an
identifier name. -/
theorem Options.exists_source_of_mem_resolve {o : Options} {pair : String × String}
    (h : pair ∈ o.resolve.1.properties) :
    (∃ source ∈ o.propertiesToInject.getD [], pair ∈ source.pairs) ∧
      isIdentifierName pair.2 = true := by
  have hmerged : pair ∈ (Settings.mergeSources [] [] (o.propertiesToInject.getD [])).1 := h
  obtain h | h := Settings.mem_mergeSources hmerged
  · cases h
  · exact h

/-- **The runtimes of the settings** are those that the options name. -/
theorem Options.mem_runtimes_resolve_iff {o : Options} {r : Runtime} :
    r ∈ o.resolve.1.runtimes ↔ .runtime r ∈ o.propertiesToInject.getD [] := by
  refine Settings.mem_runtimes_mergeSources_iff.trans ?_
  simp

/-- The names that are kept are the identifier names. -/
theorem Settings.keepNames_fst (names : List String) :
    (keepNames names).1 = names.filter isIdentifierName := by
  induction names with
  | nil => rfl
  | cons name rest ih =>
      rw [keepNames]
      cases hname : isIdentifierName name with
      | true => rw [List.filter_cons_of_pos hname, ← ih]; rfl
      | false => rw [List.filter_cons_of_neg (by simp [hname]), ← ih]; rfl

/-- The arguments that options ask for are the identifier names among those they list. -/
theorem Options.arguments_resolve (o : Options) :
    o.resolve.1.arguments = (o.argumentsToAdd.getD []).filter isIdentifierName :=
  Settings.keepNames_fst _

/-- **No runtimes without properties**: options name a runtime only as a property to pass on. -/
theorem Options.runtimes_resolve_eq_nil {o : Options} (h : o.resolve.1.properties = []) :
    o.resolve.1.runtimes = [] :=
  Settings.runtimes_mergeSources (fun _ => rfl) (o.propertiesToInject.getD []) h

end HostProps
