import HostProps.Proofs.Commutation
import HostProps.Proofs.Components
import HostProps.Proofs.Settings

/-!
# The Order of the Phases

The pass inserts, then injects, then widens. Any two of these phases commute, and each tells the
same after the other as before it. By induction that holds for any list of phases, so neither their
order nor leaving one of them out changes what the others do.

The pass looks for components after it has inserted, and stops there if there are no properties to
pass on. Neither makes a difference: insertion leaves the components, and without properties there
is nothing left to do.

## Main results

* `Phases.report_run`, `Phases.module_run`: pairs of phases.
* `Phases.reports_runAll`, `Phases.module_runAll_perm`: any list of phases.
* `Program.handOver_eq_runAll`: the pass is its phases in any order.
* `Program.handOver_eq_handOverThroughout`: the early return makes no difference.
* `Phases.order_irrelevant`: all of this in one statement.
-/

namespace HostProps

/-! ### Phases -/

/-- The phases of the pass. -/
inductive Phase where
  | insertion | injection | widening
deriving DecidableEq

/-- The phases in the order of the pass. -/
def Phase.all : List Phase := [insertion, injection, widening]

/-- What a phase tells, with its events. -/
inductive Report where
  /-- The index at which declarations were inserted. -/
  | inserted (index : Option Nat) (events : List Event)
  /-- The number of calls that were changed. -/
  | injected (count : Nat) (events : List Event)
  /-- The keys that were added. -/
  | widened (keys : List String) (events : List Event)

/-- The arguments of the phases. -/
structure Phases where
  names : List String
  injection : Injection
  runtimes : List Runtime

/-- The arguments that the pass gives to its phases, once it has found components. -/
def Options.phases (o : Options) (components : List String) : Phases :=
  let settings := o.resolve.1
  ⟨settings.arguments, ⟨components, settings.properties, settings.wrapperKey⟩, settings.runtimes⟩

namespace Phases

/-- A module after a phase, and what the phase tells. -/
def run (s : Phases) : Phase → Module → Report × Module
  | .insertion, m =>
    let (index, m, events) := m.insertArguments s.names
    (.inserted index events, m)
  | .injection, m =>
    let (count, m, events) := m.injectProperties s.injection
    (.injected count events, m)
  | .widening, m =>
    let (keys, m, events) := m.addRuntimeExports s.runtimes
    (.widened keys events, m)

/-- A module after some phases, one after the other, and what each of them tells. -/
def runAll (s : Phases) : List Phase → Module → List Report × Module
  | [], m => ([], m)
  | a :: order, m =>
    let (report, m) := s.run a m
    let (reports, m) := runAll s order m
    (report :: reports, m)

variable (s : Phases)

/-- **A phase tells the same after another** as it does before. -/
theorem report_run {a b : Phase} (h : a ≠ b) (m : Module) :
    (s.run a (s.run b m).2).1 = (s.run a m).1 := by
  cases a with
  | insertion =>
      cases b with
      | insertion => exact (h rfl).elim
      | injection =>
          have heq := m.insertArguments_injectProperties s.names s.injection
          exact congrArg₂ Report.inserted (congrArg (·.1) heq) (congrArg (·.2.2) heq)
      | widening =>
          obtain ⟨-, hindex, hevents⟩ := m.addRuntimeExports_insertArguments s.names s.runtimes
          exact congrArg₂ Report.inserted hindex hevents
  | injection =>
      cases b with
      | insertion =>
          obtain ⟨hcount, hevents⟩ := Module.injectProperties_report s.injection
            (m.sum_elementCount_insertArguments s.names s.injection)
          exact congrArg₂ Report.injected hcount hevents
      | injection => exact (h rfl).elim
      | widening =>
          obtain ⟨hcount, hevents⟩ := Module.injectProperties_report s.injection
            (m.sum_elementCount_addRuntimeExports s.injection s.runtimes)
          exact congrArg₂ Report.injected hcount hevents
  | widening =>
      cases b with
      | insertion =>
          have heq := (m.addRuntimeExports_insertArguments s.names s.runtimes).1
          exact congrArg₂ Report.widened (congrArg (·.1) heq) (congrArg (·.2.2) heq)
      | injection =>
          have heq := m.addRuntimeExports_injectProperties s.injection s.runtimes
          exact congrArg₂ Report.widened (congrArg (·.1) heq) (congrArg (·.2.2) heq)
      | widening => exact (h rfl).elim

/-- **Two phases leave the same module** in either order. -/
theorem module_run (a b : Phase) (m : Module) :
    (s.run a (s.run b m).2).2 = (s.run b (s.run a m).2).2 := by
  have hinjection := congrArg (·.2.1) (m.insertArguments_injectProperties s.names s.injection)
  have hwidening := congrArg (·.2.1) (m.addRuntimeExports_injectProperties s.injection s.runtimes)
  have hboth := congrArg (·.2.1) (m.addRuntimeExports_insertArguments s.names s.runtimes).1
  cases a with
  | insertion =>
      cases b with
      | insertion => rfl
      | injection => exact hinjection
      | widening => exact hboth.symm
  | injection =>
      cases b with
      | insertion => exact hinjection.symm
      | injection => rfl
      | widening => exact hwidening.symm
  | widening =>
      cases b with
      | insertion => exact hboth
      | injection => exact hwidening
      | widening => rfl

/-- The module after some phases, as a fold. -/
theorem runAll_snd (order : List Phase) (m : Module) :
    (s.runAll order m).2 = order.foldl (fun m a => (s.run a m).2) m := by
  induction order generalizing m with
  | nil => rfl
  | cons a order ih => exact ih (s.run a m).2

/-- **What phases tell in a run** is what each of them tells alone, in any order and whichever of
them are left out. -/
theorem reports_runAll {order : List Phase} (h : order.Nodup) (m : Module) :
    (s.runAll order m).1 = order.map fun a => (s.run a m).1 := by
  induction order generalizing m with
  | nil => rfl
  | cons a order ih =>
      obtain ⟨ha, horder⟩ := List.nodup_cons.1 h
      have hothers : order.map (fun b => (s.run b (s.run a m).2).1) =
          order.map fun b => (s.run b m).1 := by
        refine List.map_congr_left fun b hb => s.report_run ?_ m
        rintro rfl
        exact ha hb
      rw [List.map_cons, ← hothers, ← ih horder]
      rfl

/-- **The module after some phases** does not depend on their order. -/
theorem module_runAll_perm {order order' : List Phase} (h : order.Perm order') (m : Module) :
    (s.runAll order m).2 = (s.runAll order' m).2 := by
  rw [runAll_snd, runAll_snd]
  exact h.foldl_eq' (fun a _ b _ m => s.module_run b a m) m

end Phases

/-- **The pass is its three phases**, whatever their order: it stops early only if there is nothing
left to do, and it may look for components at any time. -/
theorem Program.handOver_eq_runAll (o : Options) (p : Program) {order : List Phase}
    (h : order.Perm Phase.all) :
    (p.handOver o).1.module = ((o.phases p.module.components.1).runAll order p.module).2 := by
  rw [Phases.module_runAll_perm _ h]
  show (p.module.handOver o.resolve.1).1 =
    (((p.module.insertArguments o.resolve.1.arguments).2.1.injectProperties
      ⟨p.module.components.1, o.resolve.1.properties, o.resolve.1.wrapperKey⟩).2.1.addRuntimeExports
      o.resolve.1.runtimes).2.1
  rw [Module.handOver_fst]
  -- Where the pass stops early, injection has nothing to pass on and widening has no runtimes.
  cases hempty : o.resolve.1.properties.isEmpty with
  | true =>
      have hidle : Injection.isIdle
          ⟨p.module.components.1, o.resolve.1.properties, o.resolve.1.wrapperKey⟩ = true := by
        rw [Injection.isIdle, hempty, Bool.or_true]
      have hruntimes := Options.runtimes_resolve_eq_nil (List.isEmpty_iff.1 hempty)
      rw [Module.injectProperties_eq, if_pos hidle, hruntimes, Module.addRuntimeExports_eq]
      rfl
  | false =>
      have hcomponents : (p.module.insertArguments o.resolve.1.arguments).2.1.components.1 =
          p.module.components.1 :=
        (Module.grown_evolution.insert o.resolve.1.arguments p.module).components
      simp only [hcomponents]
      rfl

/-! ### The early return -/

/-- The pass without its early return, and with components looked for before anything is done: all
three phases always run. -/
def Module.handOverThroughout (s : Settings) (m : Module) : Module :=
  let components := m.components.1
  let inserted := (m.insertArguments s.arguments).2.1
  let injected := (inserted.injectProperties ⟨components, s.properties, s.wrapperKey⟩).2.1
  (injected.addRuntimeExports s.runtimes).2.1

/-- Settings without arguments and properties leave a module as it is. -/
theorem Module.handOver_of_nothing {s : Settings} (harguments : s.arguments = [])
    (hproperties : s.properties = []) (m : Module) : (m.handOver s).1 = m := by
  rw [handOver_fst, harguments, hproperties]
  rfl

/-- **The early return agrees with running all phases.** For all options the pass leaves the
document that it would leave without its early return, and with components looked for before
anything is inserted. It stops early if the settings have no properties, and then they have no
runtimes either, whatever was filtered, overridden or named twice on the way. If they have no
arguments either, then the document stays as it was. -/
theorem Program.handOver_eq_handOverThroughout (o : Options) (p : Program) :
    (p.handOver o).1 = { p with module := p.module.handOverThroughout o.resolve.1 } ∧
      (o.resolve.1.properties = [] → o.resolve.1.runtimes = []) ∧
      (o.resolve.1.arguments = [] → o.resolve.1.properties = [] → (p.handOver o).1 = p) := by
  have hmodule : (p.handOver o).1.module = p.module.handOverThroughout o.resolve.1 :=
    p.handOver_eq_runAll o (List.Perm.refl Phase.all)
  refine ⟨?_, Options.runtimes_resolve_eq_nil, ?_⟩
  · rw [← hmodule]
    rfl
  · intro harguments hproperties
    have hsame : (p.module.handOver o.resolve.1).1 = p.module :=
      Module.handOver_of_nothing harguments hproperties p.module
    show { p with module := (p.module.handOver o.resolve.1).1 } = p
    rw [hsame]

/-- Options with an argument and a property, neither of which names an identifier. -/
def Options.unusable : Options := ⟨some [""], some [.pair "a" ""], some "b"⟩

/-- Nothing is left of these options, so the sample stays as it is. -/
theorem Program.handOver_eq_handOverThroughout_sample :
    Options.unusable.resolve.1.arguments = [] ∧ Options.unusable.resolve.1.properties = [] ∧
      Options.unusable.resolve.1.runtimes = [] ∧
      (sample.handOver .unusable).1.module =
        sample.module.handOverThroughout Options.unusable.resolve.1 ∧
      (sample.handOver .unusable).1 = sample := by
  have harguments : Options.unusable.resolve.1.arguments = [] := by decide
  have hproperties : Options.unusable.resolve.1.properties = [] := by decide
  obtain ⟨hpass, hruntimes, hsame⟩ := sample.handOver_eq_handOverThroughout .unusable
  refine ⟨harguments, hproperties, hruntimes hproperties, ?_, hsame harguments hproperties⟩
  rw [hpass]

/-! ### The order -/

/-- **The order of the phases does not matter.** For all arguments, any two phases leave the same
module in either order, and each tells the same after the other as before it. So any list of phases
without repetition has each phase tell what it tells alone, and leaves the module that its other
orders leave. And for all options the pass is its three phases in any order. -/
theorem Phases.order_irrelevant (s : Phases) (m : Module) :
    (∀ a b, (s.run a (s.run b m).2).2 = (s.run b (s.run a m).2).2 ∧
      (a ≠ b → (s.run a (s.run b m).2).1 = (s.run a m).1)) ∧
    (∀ order : List Phase, order.Nodup →
      (s.runAll order m).1 = order.map fun a => (s.run a m).1) ∧
    (∀ order order' : List Phase, order.Perm order' →
      (s.runAll order m).2 = (s.runAll order' m).2) ∧
    ∀ (o : Options) (p : Program) (order : List Phase), order.Perm Phase.all →
      (p.handOver o).1.module = ((o.phases p.module.components.1).runAll order p.module).2 := by
  refine ⟨?_, ?_, ?_, ?_⟩
  · intro a b
    exact ⟨s.module_run a b m, fun h => s.report_run h m⟩
  · intro order h
    exact s.reports_runAll h m
  · intro order order' h
    exact s.module_runAll_perm h m
  · intro o p order h
    exact p.handOver_eq_runAll o h

/-- The phases on a module of two statements, with names, properties and a runtime. -/
theorem Phases.order_irrelevant_sample :
    let s : Phases := ⟨["React"], ⟨["A"], [("a", "a")], some "b"⟩, [.production]⟩
    let m := Program.sample.module
    let order : List Phase := [.widening, .insertion, .injection]
    (Phase.insertion ≠ .widening ∧ (s.run .insertion (s.run .widening m).2).1 =
      (s.run .insertion m).1) ∧
    (order.Nodup ∧ (s.runAll order m).1 = order.map fun a => (s.run a m).1) ∧
    (order.Perm Phase.all ∧ (s.runAll order m).2 = (s.runAll Phase.all m).2) ∧
    (Program.sample.handOver .default).1.module =
      ((Options.default.phases Program.sample.module.components.1).runAll order
        Program.sample.module).2 := by
  intro s m order
  obtain ⟨hpair, hreports, hmodule, hpass⟩ := s.order_irrelevant m
  have hnodup : order.Nodup := by decide
  have hperm : order.Perm Phase.all := by decide
  exact ⟨⟨by decide, (hpair .insertion .widening).2 (by decide)⟩, ⟨hnodup, hreports order hnodup⟩,
    ⟨hperm, hmodule order Phase.all hperm⟩, hpass .default Program.sample order hperm⟩

end HostProps
