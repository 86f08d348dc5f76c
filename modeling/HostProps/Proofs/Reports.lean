import HostProps.Proofs.RepeatedWidening

/-!
# The Log tells what was done

Each operation gives its result and its events apart from each other: the events come about in
loops with several branches, and some of these branches add nothing to the result. Here the two are
tied together, for whatever module and arguments.

* The search for components judges one import after the other. One step adds one event, and a name
  if this event says so (`Findings.exists_add`); the loop over the declarators preserves that
  (`Findings.exists_foldl_addDeclarator`).
* Widening reports each key with the name that the added property binds.
* Insertion and injection report once, or not at all.

## Main results

* `Module.reported_components`, `Module.reported_addRuntimeExports`,
  `Module.reported_insertArguments`, `Module.reported_injectProperties`: the events of each
  operation.
* `Module.reports_exact`: all of them.
-/

namespace HostProps

/-! ### What events say -/

namespace Event

/-- Is an event for debugging? The others are only for tracing. -/
def isDebug (e : Event) : Bool := e.parts.1 == "DEBUG"

/-- The value of a field of an event. -/
def field? (e : Event) (name : String) : Option Json := e.parts.2.2.lookup name

end Event

/-- **The event of an import**: it is no component by its name, or none by its specifier, or it is
one. -/
inductive ImportBinding.IsReportedAs (b : ImportBinding) : Event → Prop
  | nonComponent : isComponentName b.name = false → b.IsReportedAs (.nonComponentIgnored b.name)
  | nonScript : isComponentName b.name = true → isScriptSpecifier b.specifier = false →
      b.IsReportedAs (.nonScriptIgnored b.name b.specifier)
  | component : isComponentName b.name = true → isScriptSpecifier b.specifier = true →
      b.IsReportedAs (.componentDetected b.name b.specifier b.shape)

/-- **Events agree with names**: the events for debugging have just these names, in order. -/
def NamesReported (names : List String) (events : List Event) : Prop :=
  (events.filter Event.isDebug).map (·.field? "name") = names.map fun name => some (.string name)

/-- **The event of a property** that is added to a pattern has its key, and the name that it
binds. -/
def Node.IsReportedAs (property : Node) (e : Event) : Prop :=
  e.isDebug = true ∧
    ∃ key name, property.HasKey key ∧ property.boundNames = [name] ∧ e = .exportAdded key name

/-! ### The search for components -/

/-- Events that agree with names, one list after the other. -/
theorem NamesReported.append {names names' : List String} {events events' : List Event}
    (h : NamesReported names events) (h' : NamesReported names' events') :
    NamesReported (names ++ names') (events ++ events') := by
  rw [NamesReported, List.filter_append, List.map_append, List.map_append, h, h']

namespace Findings

/-- **One import** adds one event, which says whether its name is added. -/
theorem exists_add (f : Findings) (b : ImportBinding) :
    ∃ names e, f.add b = ⟨f.names ++ names, f.events ++ [e]⟩ ∧ b.IsReportedAs e ∧
      NamesReported names [e] := by
  rw [add]
  cases hname : isComponentName b.name with
  | false => exact ⟨[], _, by simp, .nonComponent hname, rfl⟩
  | true =>
      cases hscript : isScriptSpecifier b.specifier with
      | false => exact ⟨[], _, by simp, .nonScript hname hscript, rfl⟩
      | true => exact ⟨[b.name], _, rfl, .component hname hscript, rfl⟩

/-- **Several declarators** add one event for each that binds an import, in order, and the names
that these events say. -/
theorem exists_foldl_addDeclarator (ds : List Node) (f : Findings) :
    ∃ names events, ds.foldl addDeclarator f = ⟨f.names ++ names, f.events ++ events⟩ ∧
      List.Forall₂ (fun d e => ∃ b, d.importBinding? = some b ∧ b.IsReportedAs e)
        (ds.filter (·.importBinding?.isSome)) events ∧
      NamesReported names events := by
  induction ds generalizing f with
  | nil => exact ⟨[], [], by simp, .nil, rfl⟩
  | cons d ds ih =>
      rw [List.foldl_cons, addDeclarator]
      cases hd : d.importBinding? with
      | none =>
          rw [List.filter_cons_of_neg (by simp [hd])]
          exact ih f
      | some b =>
          obtain ⟨names, e, hadd, hreported, hnames⟩ := f.exists_add b
          obtain ⟨names', events, hrest, hevents, hnames'⟩ := ih (f.add b)
          rw [List.filter_cons_of_pos (by simp [hd])]
          refine ⟨names ++ names', [e] ++ events, ?_, .cons ⟨b, hd, hreported⟩ hevents,
            hnames.append hnames'⟩
          rw [hrest, hadd, List.append_assoc, List.append_assoc]

end Findings

namespace Module

variable (m : Module)

/-- **The search for components reports each import**, and the names that it gives are those of the
events for debugging. -/
theorem reported_components :
    List.Forall₂ (fun d e => ∃ b, d.importBinding? = some b ∧ b.IsReportedAs e)
        (m.declarators.filter (·.importBinding?.isSome)) m.components.2 ∧
      NamesReported m.components.1 m.components.2 := by
  obtain ⟨names, events, hfound, hevents, hnames⟩ :=
    Findings.exists_foldl_addDeclarator m.declarators ⟨[], []⟩
  rw [components, m.walk_visit_eq_foldl, hfound]
  exact ⟨hevents, hnames⟩

/-! ### Widening -/

/-- The second module is the first one with some properties added to the first pattern that takes
`arguments[0]` apart, or there is no such pattern and nothing is added. -/
def AddsProperties (m m' : Module) (added : List Node) : Prop :=
  (∃ (place : PatternPlace) (before after : List Node), place.IsFirst m (before ++ after) ∧
    m' = { m with body := place.fill (before ++ added ++ after) }) ∨
  (m' = m ∧ added = [])

/-- **Widening reports each key** with the name that the property which was added for it binds. -/
theorem reported_addRuntimeExports (runtimes : List Runtime) :
    ∃ added, m.AddsProperties (m.addRuntimeExports runtimes).2.1 added ∧
      List.Forall₂ Node.HasKey added (m.addRuntimeExports runtimes).1 ∧
      List.Forall₂ Node.IsReportedAs added (m.addRuntimeExports runtimes).2.2 := by
  obtain ⟨place, properties, hplace⟩ | hnone := m.exists_isFirst_or_forall_not
  · obtain ⟨before, after, rfl, hwidened⟩ := exists_widenProperties runtimes properties
    rw [hplace.addRuntimeExports_eq, hwidened]
    refine ⟨_, .inl ⟨place, before, after, hplace, rfl⟩, ?_, ?_⟩
    · rw [exportPairs, List.forall₂_map_left_iff, List.forall₂_same]
      exact fun key _ => hasKey_generatedPatternPair key _
    · rw [exportPairs, List.forall₂_map_left_iff, List.forall₂_map_right_iff, List.forall₂_same]
      exact fun key _ => ⟨rfl, key, _, hasKey_generatedPatternPair key _,
        Node.boundNames_generatedPatternPair key _, rfl⟩
  · rw [m.addRuntimeExports_of_forall_not hnone]
    exact ⟨[], .inr ⟨rfl, rfl⟩, .nil, .nil⟩

/-! ### Insertion and injection -/

/-- **Insertion reports once if it gives an index**, with this index and the names that the inserted
declarations bind, and else it reports nothing and changes nothing. -/
theorem reported_insertArguments (names : List String) :
    (∃ (index : Nat) (declarations : List Node),
      (m.insertArguments names).1 = some index ∧
      (m.insertArguments names).2.1 =
        { m with body := m.body.take index ++ declarations ++ m.body.drop index } ∧
      (m.insertArguments names).2.2 =
        [.argumentsInserted index (declarations.flatMap Node.boundNames)]) ∨
    m.insertArguments names = (none, m, []) := by
  obtain ⟨before, after, hcut⟩ := Cut.exists_of_body m.body
  rw [insertArguments_of_cut hcut]
  split
  · exact .inr rfl
  · refine .inl ⟨before.length, (names.filter isIdentifierName).map Node.argumentDeclaration, rfl,
      ?_, ?_⟩
    · rw [hcut.append, List.take_left, List.drop_left]
    · simp only [List.flatMap_map, Node.boundNames_argumentDeclaration, List.flatMap_singleton']

/-- **Injection reports once unless it is idle**, with the count that it gives. -/
theorem reported_injectProperties (i : Injection) :
    (m.injectProperties i).2.2 =
      if i.components ≠ [] ∧ i.properties ≠ [] then
        [.propertiesInjected (m.injectProperties i).1]
      else [] := by
  have hidle : i.isIdle = true ↔ ¬ (i.components ≠ [] ∧ i.properties ≠ []) := by
    rw [Injection.isIdle, Bool.or_eq_true_iff, List.isEmpty_iff, List.isEmpty_iff, not_and_or,
      not_not, not_not]
  rw [m.injectProperties_eq]
  by_cases h : i.isIdle = true
  · rw [if_pos h, if_neg (hidle.1 h)]
  · rw [if_neg h, if_pos (not_not.1 (mt hidle.2 h))]

/-- **The log tells what was done.** For every module and all arguments:

* the search for components reports once for each declarator at the top level that binds an import,
  in order, whether it is a component; the names of the events for debugging are those that it
  gives;
* widening reports once for each key that it gives, in order, with the name that the property which
  was added for it binds;
* insertion reports once if it gives an index, with this index and the names that the inserted
  declarations bind, and not at all if it gives none;
* injection reports once if there are components and properties, with the count that it gives, and
  not at all otherwise. -/
theorem reports_exact :
    (List.Forall₂ (fun d e => ∃ b, d.importBinding? = some b ∧ b.IsReportedAs e)
        (m.declarators.filter (·.importBinding?.isSome)) m.components.2 ∧
      (m.components.2.filter Event.isDebug).map (·.field? "name") =
        m.components.1.map fun name => some (.string name)) ∧
    (∀ runtimes, ∃ added, m.AddsProperties (m.addRuntimeExports runtimes).2.1 added ∧
      List.Forall₂ Node.HasKey added (m.addRuntimeExports runtimes).1 ∧
      List.Forall₂ Node.IsReportedAs added (m.addRuntimeExports runtimes).2.2) ∧
    (∀ names,
      (∃ (index : Nat) (declarations : List Node),
        (m.insertArguments names).1 = some index ∧
        (m.insertArguments names).2.1 =
          { m with body := m.body.take index ++ declarations ++ m.body.drop index } ∧
        (m.insertArguments names).2.2 =
          [.argumentsInserted index (declarations.flatMap Node.boundNames)]) ∨
      m.insertArguments names = (none, m, [])) ∧
    ∀ i : Injection, (m.injectProperties i).2.2 =
      if i.components ≠ [] ∧ i.properties ≠ [] then
        [.propertiesInjected (m.injectProperties i).1]
      else [] := by
  exact ⟨m.reported_components, m.reported_addRuntimeExports, m.reported_insertArguments,
    m.reported_injectProperties⟩

end Module

end HostProps
