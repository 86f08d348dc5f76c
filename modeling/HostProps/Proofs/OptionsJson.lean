import HostProps.Options

/-!
# Options written and read again

Every value of options is written as JSON, and what is written can be read. A field that is turned
off is written as `null`, so it is not taken for a missing one, which has a default.

A source of properties is written as a name alone if it is a runtime, named by its token, or if it
pairs a name with itself. A token that is paired with itself is written like the runtime, so it is
read as the runtime. That is all that changes when options are read again, and it changes once.

## Main results

* `PropertySource.ofJson?_toJson`, `Options.ofJson?_toJson`: what is read after writing.
* `Options.ofJson?_toJson_eq_some_iff`: which options are read as they were written.
-/

namespace HostProps

/-! ### Runtimes -/

/-- A name is the token of a runtime just if it is read as that runtime. -/
theorem Runtime.ofToken?_eq_some_iff {s : String} {r : Runtime} :
    ofToken? s = some r ↔ s = r.token := by
  constructor
  · intro h
    have htoken := List.find?_some h
    exact (eq_of_beq htoken).symm
  · rintro rfl
    cases r <;> decide

/-! ### Sources of properties -/

namespace PropertySource

/-- What a source is read as after it was written. -/
def reread : PropertySource → PropertySource
  | pair key value => if key = value then ofName key else pair key value
  | runtime r => runtime r

/-- A token is read as its runtime. -/
theorem ofName_token (r : Runtime) : ofName r.token = runtime r := by
  rw [ofName, Runtime.ofToken?_eq_some_iff.2 rfl]

/-- **Every source that was written can be read.** -/
theorem ofJson?_toJson (s : PropertySource) : ofJson? s.toJson = some s.reread := by
  cases s with
  | pair key value =>
      rw [toJson, reread]
      by_cases h : key = value
      · rw [if_pos h, if_pos h]
        rfl
      · rw [if_neg h, if_neg h]
        rfl
  | runtime r =>
      have hname := ofName_token r
      exact congrArg some hname

/-- Reading gives no pair of a token with itself: a token alone is read as its runtime. -/
theorem reread_ne_pair_token (s : PropertySource) (r : Runtime) :
    s.reread ≠ pair r.token r.token := by
  intro h
  cases s with
  | pair key value =>
      rw [reread] at h
      by_cases hkey : key = value
      · rw [if_pos hkey] at h
        have hname : key = r.token := by
          rw [ofName] at h
          split at h
          · cases h
          · exact (pair.inj h).1
        rw [hname, ofName_token] at h
        cases h
      · rw [if_neg hkey] at h
        obtain ⟨hk, hv⟩ := pair.inj h
        exact hkey (hk.trans hv.symm)
  | runtime s => cases h

/-- A source is read as it was written unless it pairs a token with itself. -/
theorem reread_eq_self_iff {s : PropertySource} :
    s.reread = s ↔ ∀ r : Runtime, s ≠ pair r.token r.token := by
  constructor
  · intro h r hs
    exact s.reread_ne_pair_token r (h.trans hs)
  · intro hnone
    cases s with
    | pair key value =>
        rw [reread]
        by_cases hkey : key = value
        · rw [if_pos hkey, ← hkey, ofName]
          cases htoken : Runtime.ofToken? key with
          | some r =>
              have hr := Runtime.ofToken?_eq_some_iff.1 htoken
              refine (hnone r ?_).elim
              rw [← hkey, hr]
          | none => rfl
        · rw [if_neg hkey]
    | runtime r => rfl

/-- What was read again is read as it was written. -/
theorem reread_reread (s : PropertySource) : s.reread.reread = s.reread :=
  reread_eq_self_iff.2 s.reread_ne_pair_token

/-- Sources are read as they were written unless one of them pairs a token with itself. -/
theorem map_reread_eq_self_iff {sources : List PropertySource} :
    sources.map reread = sources ↔ ∀ r : Runtime, pair r.token r.token ∉ sources := by
  have hmap : sources.map reread = sources ↔ ∀ s ∈ sources, s.reread = s := by
    simpa using List.map_inj_left (l := sources) (f := reread) (g := id)
  rw [hmap]
  constructor
  · intro hall r hmem
    exact reread_eq_self_iff.1 (hall _ hmem) r rfl
  · intro hnone s hs
    refine reread_eq_self_iff.2 ?_
    rintro r rfl
    exact hnone r hs

end PropertySource

/-! ### Options -/

/-- Items that are written one by one are read one by one. -/
theorem mapM_map_eq_some {α β γ : Type} {write : α → β} {read : β → Option γ} {f : α → γ}
    (h : ∀ a, read (write a) = some (f a)) (l : List α) :
    (l.map write).mapM read = some (l.map f) := by
  have hread : read ∘ write = fun a => pure (f a) := funext h
  rw [List.mapM_map, hread, List.mapM_pure]
  rfl

namespace Options

/-- A field that is turned off is read as turned off, and another one as what it holds. -/
theorem optionalField?_ofOption {α β : Type} {write : α → Json} {read : Json → Option β}
    {f : α → β} (hnull : ∀ a, write a ≠ .null) (hread : ∀ a, read (write a) = some (f a))
    (a : Option α) : optionalField? read (.ofOption write a) = some (a.map f) := by
  cases a with
  | none => rfl
  | some a =>
      have hvalue : optionalField? read (write a) = (read (write a)).map some := by
        rw [optionalField?.eq_def]
        split
        · rename_i h
          exact (hnull a h).elim
        · rfl
      rw [Json.ofOption, hvalue, hread]
      rfl

/-- A string that was written is read. -/
theorem string?_string (s : String) : Json.string? (.string s) = some (id s) := rfl

/-- Strings that were written are read. -/
theorem strings?_ofStrings (names : List String) :
    Json.strings? (.ofStrings names) = some (id names) := by
  have hread : (names.map Json.string).mapM Json.string? = some (names.map id) :=
    mapM_map_eq_some string?_string names
  rw [List.map_id] at hread
  exact hread

/-- Sources that were written are read, each by itself. -/
theorem propertiesOfJson?_toJson (sources : List PropertySource) :
    propertiesOfJson? (.array (sources.map PropertySource.toJson)) =
      some (sources.map PropertySource.reread) :=
  mapM_map_eq_some PropertySource.ofJson?_toJson sources

/-- Options are read from the fields that were written. -/
theorem ofJson?_toJson_eq_ofFields? (o : Options) :
    ofJson? o.toJson =
      ofFields? (some (.ofOption .ofStrings o.argumentsToAdd))
        (some (.ofOption (fun sources => .array (sources.map PropertySource.toJson))
          o.propertiesToInject))
        (some (.ofOption .string o.wrapperKey)) := rfl

/-- **Options that were written can be read**: with the sources of properties read again, and
nothing else changed. -/
theorem ofJson?_toJson (o : Options) :
    ofJson? o.toJson =
      some { o with
        propertiesToInject := o.propertiesToInject.map (·.map PropertySource.reread) } := by
  have harguments := optionalField?_ofOption (fun _ => Json.noConfusion) strings?_ofStrings
    o.argumentsToAdd
  have hproperties := optionalField?_ofOption (fun _ => Json.noConfusion) propertiesOfJson?_toJson
    o.propertiesToInject
  have hkey := optionalField?_ofOption (fun _ => Json.noConfusion) string?_string o.wrapperKey
  rw [Option.map_id] at harguments hkey
  rw [ofJson?_toJson_eq_ofFields?, ofFields?]
  simp only [Option.map_some, Option.getD_some, harguments, hproperties, hkey]
  rfl

/-- Options are read as they were written if and only if their sources of properties are. -/
theorem ofJson?_toJson_eq_some (o : Options) :
    ofJson? o.toJson = some o ↔
      (o.propertiesToInject.getD []).map PropertySource.reread =
        o.propertiesToInject.getD [] := by
  rw [ofJson?_toJson, Option.some.injEq]
  obtain ⟨arguments, properties, key⟩ := o
  cases properties with
  | none => exact ⟨fun _ => rfl, fun _ => rfl⟩
  | some sources =>
      simp only [Option.map_some, Option.getD_some, mk.injEq, Option.some.injEq, true_and,
        and_true]

/-- **Options are read as they were written** if and only if no source pairs the token of a runtime
with itself. All options that were written can be read, only sources of properties can change by
that, and writing and reading them once more changes nothing. -/
theorem ofJson?_toJson_eq_some_iff (o : Options) :
    (ofJson? o.toJson = some o ↔
      ∀ r : Runtime, .pair r.token r.token ∉ o.propertiesToInject.getD []) ∧
    ∃ o', ofJson? o.toJson = some o' ∧ o'.argumentsToAdd = o.argumentsToAdd ∧
      o'.propertiesToInject = o.propertiesToInject.map (·.map PropertySource.reread) ∧
      o'.wrapperKey = o.wrapperKey ∧ ofJson? o'.toJson = some o' := by
  refine ⟨?_, _, o.ofJson?_toJson, rfl, rfl, rfl, ?_⟩
  · rw [ofJson?_toJson_eq_some, PropertySource.map_reread_eq_self_iff]
  · rw [ofJson?_toJson_eq_some]
    cases o.propertiesToInject with
    | none => rfl
    | some sources =>
        rw [Option.map_some, Option.getD_some, List.map_map]
        exact List.map_congr_left fun s _ => s.reread_reread

/-- **A pair can be read as a runtime**: that of a token with itself. -/
theorem ofJson?_toJson_ne_some :
    let o : Options := ⟨some ["React"], some [.pair "jsx-runtime" "jsx-runtime"], none⟩
    ofJson? o.toJson = some ⟨some ["React"], some [.runtime .production], none⟩ ∧
      ofJson? o.toJson ≠ some o := by
  decide +kernel

end Options

end HostProps
