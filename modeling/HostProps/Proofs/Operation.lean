import HostProps.Pass

/-!
# Runs of Operations

A document may be worked on more than once: each of the three operations of the pass can be applied
by itself, and so can the whole pass, in any order and any number of times. `Program.run` does so
for a list of operations with their arguments.

Whatever such a run does to a module is made of the three operations, for the pass is made of them
too. So a relation between modules that is reflexive and transitive, and that each of the three
operations establishes, holds between a document and what any run makes of it. `Evolution` says
what has to be shown, and `Evolution.run` is the only induction on runs that the theory needs.

## Main results

* `Evolution.handOver`: the pass on a module stays within an evolution.
* `Evolution.run`: so does every run.
* `Program.comments_run`, `Program.path_run`: runs change nothing of a document but its module.
-/

namespace HostProps

/-- Something that is done to a document, with its arguments. -/
inductive Operation where
  /-- Declare values of the first argument. -/
  | insert (names : List String)
  /-- Pass properties to components. -/
  | inject (injection : Injection)
  /-- Take the exports of runtimes out of the first argument. -/
  | widen (runtimes : List Runtime)
  /-- The whole pass. -/
  | handOver (options : Options)

/-- A document after an operation. -/
def Operation.apply : Operation → Program → Program
  | insert names, p => { p with module := (p.module.insertArguments names).2.1 }
  | inject i, p => { p with module := (p.module.injectProperties i).2.1 }
  | widen runtimes, p => { p with module := (p.module.addRuntimeExports runtimes).2.1 }
  | handOver options, p => (p.handOver options).1

/-- A document after some operations, one after the other. -/
def Program.run (p : Program) (ops : List Operation) : Program :=
  ops.foldl (fun p op => op.apply p) p

/-- The pass on a module is an insertion, after which it stops if there is nothing to pass on, then
an injection into the components that are found by then, and a widening. -/
theorem Module.handOver_fst (s : Settings) (m : Module) :
    (m.handOver s).1 =
      let inserted := (m.insertArguments s.arguments).2.1
      if s.properties.isEmpty then inserted
      else
        let injection := ⟨inserted.components.1, s.properties, s.wrapperKey⟩
        ((inserted.injectProperties injection).2.1.addRuntimeExports s.runtimes).2.1 := by
  rw [Module.handOver]
  cases s.properties.isEmpty <;> rfl

/-! ### What runs leave alone -/

namespace Program

/-- Runs leave the comments of a document alone. -/
theorem comments_run (p : Program) (ops : List Operation) : (p.run ops).comments = p.comments := by
  induction ops generalizing p with
  | nil => rfl
  | cons op ops ih =>
      have hop : (op.apply p).comments = p.comments := by cases op <;> rfl
      exact (ih (op.apply p)).trans hop

/-- Runs leave the path of a document alone. -/
theorem path_run (p : Program) (ops : List Operation) : (p.run ops).path = p.path := by
  induction ops generalizing p with
  | nil => rfl
  | cons op ops ih =>
      have hop : (op.apply p).path = p.path := by cases op <;> rfl
      exact (ih (op.apply p)).trans hop

end Program

/-! ### Evolutions -/

/-- A way in which modules may change: not at all, by several changes in a row, and by each of the
three operations. -/
structure Evolution (R : Module → Module → Prop) : Prop where
  refl : ∀ m, R m m
  trans : ∀ {m₁ m₂ m₃}, R m₁ m₂ → R m₂ m₃ → R m₁ m₃
  insert : ∀ names m, R m (m.insertArguments names).2.1
  inject : ∀ i m, R m (m.injectProperties i).2.1
  widen : ∀ runtimes m, R m (m.addRuntimeExports runtimes).2.1

namespace Evolution

variable {R : Module → Module → Prop}

/-- What each of the three operations leaves as it is gives an evolution. -/
theorem of_invariant {α : Type} (f : Module → α)
    (insert : ∀ names m, f (m.insertArguments names).2.1 = f m)
    (inject : ∀ i m, f (m.injectProperties i).2.1 = f m)
    (widen : ∀ runtimes m, f (m.addRuntimeExports runtimes).2.1 = f m) :
    Evolution fun m m' => f m' = f m where
  refl _ := rfl
  trans h₁ h₂ := h₂.trans h₁
  insert := insert
  inject := inject
  widen := widen

/-- The pass on a module stays within an evolution. -/
theorem handOver (h : Evolution R) (s : Settings) (m : Module) : R m (m.handOver s).1 := by
  have hinsert := h.insert s.arguments m
  rw [Module.handOver_fst]
  split
  · exact hinsert
  · exact h.trans (h.trans hinsert (h.inject _ _)) (h.widen s.runtimes _)

/-- Every operation stays within an evolution. -/
theorem apply (h : Evolution R) (op : Operation) (p : Program) :
    R p.module (op.apply p).module := by
  cases op with
  | insert names => exact h.insert names p.module
  | inject i => exact h.inject i p.module
  | widen runtimes => exact h.widen runtimes p.module
  | handOver options => exact h.handOver options.resolve.1 p.module

/-- **Every run stays within an evolution.** -/
theorem run (h : Evolution R) (ops : List Operation) (p : Program) :
    R p.module (p.run ops).module := by
  induction ops generalizing p with
  | nil => exact h.refl p.module
  | cons op ops ih => exact h.trans (h.apply op p) (ih (op.apply p))

end Evolution

end HostProps
