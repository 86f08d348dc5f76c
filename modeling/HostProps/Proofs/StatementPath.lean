import HostProps.Syntax.View
import Mathlib.Data.List.Nodup

/-!
# Where Statements Stand

A statement inside of another one is found by a *step*: the part of the outer statement that it
stands in, the entry of this part (of a `switch` each case is one), and its index there. A statement
of a module is found by a *path* of steps, the first of which is an index in the body.

`Node.Holds` says for each construct which statements it holds and at which steps, and
`Node.Reaches` and `Module.Reaches` follow paths. They are told by the syntax alone: nothing here
knows how statements are walked.

Paths are ordered as the statements are in the text, an outer statement before those inside of it
(`Precedes`), and the statements around one are at the beginnings of its path (`Encloses`).

## Main results

* `Node.Holds`: the statements that each construct holds.
* `Node.reaches_append_iff`, `Module.reaches_append_iff`: paths in pieces.
* `Module.Reaches.around`: as many statements are around one as its path has steps before the last.
-/

namespace HostProps

/-! ### Steps -/

/-- Where a statement stands in the one around it. -/
structure Step where
  /-- The part of the outer statement. -/
  part : Nat
  /-- The entry of that part: the case of a `switch`, and 0 for all other parts. -/
  entry : Nat
  /-- The index in the list of statements there. -/
  index : Nat
deriving DecidableEq, Repr

/-- The order of steps in the text. -/
def Step.Before (a b : Step) : Prop :=
  a.part < b.part ∨
    a.part = b.part ∧ (a.entry < b.entry ∨ a.entry = b.entry ∧ a.index < b.index)

/-- The order of statements in the text, an outer statement before those inside of it. -/
def Precedes (p q : List Step) : Prop := List.Lex Step.Before p q

/-- The statement at the first path is around the one at the second. -/
def Encloses (p q : List Step) : Prop := p <+: q ∧ p ≠ q

/-- No step is before itself. -/
theorem Step.Before.irrefl (a : Step) : ¬a.Before a := by
  rw [Before]
  omega

/-- Of two steps at most one is before the other. -/
theorem Step.Before.asymm {a b : Step} (h : a.Before b) : ¬b.Before a := by
  rw [Before] at h ⊢
  omega

/-- A step is not the same as one that it is before. -/
theorem Step.Before.ne {a b : Step} (h : a.Before b) : a ≠ b := by
  rintro rfl
  exact Step.Before.irrefl a h

/-- No statement precedes itself. -/
theorem Precedes.irrefl (p : List Step) : ¬Precedes p p :=
  List.lex_irrefl Step.Before.irrefl p

/-! ### What constructs hold -/

namespace Node

/-- **The statements that a construct holds**, with the steps at which it does: a block its
statements, an `if` its branches, loops, labels and `with` their bodies, a `switch` the statements
of its cases, a `try` those of its three blocks, and the declaration of a function those of its
body. -/
inductive Holds : Node → Step → Node → Prop
  | block {o : Origin} {ps ns : List Node} {index : Nat} {n : Node} :
      ps[0]? = some (list ns) → ns[index]? = some n →
      Holds (plain .block o ps) ⟨0, 0, index⟩ n
  | branch {o : Origin} {ps : List Node} {part : Nat} {n : Node} :
      part ∈ [1, 2] → ps[part]? = some n → n.isAbsent = false →
      Holds (plain .ifStatement o ps) ⟨part, 0, 0⟩ n
  | body {form : Form} {o : Origin} {ps : List Node} {part : Nat} {n : Node} :
      (form, part) ∈ [(.withStatement, 1), (.labeled, 1), (.whileStatement, 1), (.doWhile, 1),
        (.forStatement, 3), (.forIn, 2)] →
      ps[part]? = some n → n.isAbsent = false →
      Holds (plain form o ps) ⟨part, 0, 0⟩ n
  | forOfBody {s : Span} {isAwait : Bool} {ps : List Node} {n : Node} :
      ps[2]? = some n → n.isAbsent = false →
      Holds (mk (.forOf s isAwait) ps) ⟨2, 0, 0⟩ n
  | switchCase {o caseOrigin : Origin} {ps entries ns : List Node} {test : Node}
      {entry index : Nat} {n : Node} :
      ps[1]? = some (list entries) →
      entries[entry]? = some (plain .switchCase caseOrigin [test, list ns]) → ns[index]? = some n →
      Holds (plain .switchStatement o ps) ⟨1, entry, index⟩ n
  | tryBlock {o blockOrigin : Origin} {ps ns : List Node} {part index : Nat} {n : Node} :
      part ∈ [0, 2] → ps[part]? = some (plain .block blockOrigin [list ns]) → ns[index]? = some n →
      Holds (plain .tryStatement o ps) ⟨part, 0, index⟩ n
  | handler {o handlerOrigin blockOrigin : Origin} {ps ns : List Node} {param : Node} {index : Nat}
      {n : Node} :
      ps[1]? = some (plain .catchClause handlerOrigin [param, plain .block blockOrigin [list ns]]) →
      ns[index]? = some n →
      Holds (plain .tryStatement o ps) ⟨1, 0, index⟩ n
  | functionBody {o blockOrigin : Origin} {isAsync isGenerator : Bool} {ps ns : List Node}
      {index : Nat} {n : Node} :
      ps[3]? = some (plain .block blockOrigin [list ns]) → ns[index]? = some n →
      Holds (mk (.function .declaration o isAsync isGenerator) ps) ⟨3, 0, index⟩ n

/-- **Following a path** from a statement to one inside of it, or to itself. -/
inductive Reaches : Node → List Step → Node → Prop
  | self (n : Node) : Reaches n [] n
  | inside {n m k : Node} {step : Step} {path : List Step} :
      n.Holds step m → m.Reaches path k → Reaches n (step :: path) k

end Node

/-- **Following a path** from the body of a module to a statement. Module declarations are no
statements, but they count for the index. -/
inductive Module.Reaches (m : Module) : List Step → Node → Prop
  | intro {index : Nat} {n k : Node} {path : List Step} :
      m.body[index]? = some n → n.isModuleDeclaration = false → n.Reaches path k →
      m.Reaches (⟨0, 0, index⟩ :: path) k

/-! ### The order of the text -/

section Paths

variable {a b : Step} {p q : List Step}

/-- Nothing is inside of a statement at a path that ends. -/
theorem not_encloses_nil : ¬Encloses p [] :=
  fun h => h.2 (List.prefix_nil.1 h.1)

/-- A statement is around all that is inside of it. -/
theorem encloses_nil_cons : Encloses [] (a :: p) :=
  ⟨List.nil_prefix, (List.cons_ne_nil a p).symm⟩

/-- Behind one step, statements are around each other as they are before it. -/
theorem encloses_cons_cons : Encloses (a :: p) (a :: q) ↔ Encloses p q := by
  simp only [Encloses, List.cons_prefix_cons, true_and, ne_eq, List.cons.injEq]

/-- What is around a statement behind a step is behind this step, if it has one. -/
theorem Encloses.eq_of_cons (h : Encloses (a :: p) (b :: q)) : a = b :=
  (List.cons_prefix_cons.1 h.1).1

/-- The path to a statement around one is shorter. -/
theorem Encloses.length_lt (h : Encloses p q) : p.length < q.length :=
  Nat.lt_of_le_of_ne h.1.length_le fun heq => h.2 (h.1.eq_of_length heq)

/-- The path to a statement around one is a beginning of its path. -/
theorem Encloses.take_eq (h : Encloses p q) : q.take p.length = p :=
  (List.prefix_iff_eq_take.1 h.1).symm

/-- The beginnings of a path are those to the statements around. -/
theorem encloses_take {k : Nat} (h : k < p.length) : Encloses (p.take k) p := by
  refine ⟨List.take_prefix k p, fun heq => ?_⟩
  have hlength := congrArg List.length heq
  rw [List.length_take] at hlength
  omega

/-- Nothing comes before a statement and is inside of it. -/
theorem not_precedes_nil : ¬Precedes p [] :=
  fun h => nomatch h

/-- An outer statement comes first. -/
theorem precedes_nil_cons : Precedes [] (a :: p) := .nil

/-- Behind one step, statements come in the order that they have before it. -/
theorem precedes_cons_cons : Precedes (a :: p) (a :: q) ↔ Precedes p q := by
  constructor
  · rintro (_ | h | h)
    · exact absurd h (Step.Before.irrefl a)
    · exact h
  · exact .cons

/-- What is behind an earlier step comes first. -/
theorem Step.Before.precedes (h : a.Before b) : Precedes (a :: p) (b :: q) := .rel h

/-- What is behind a later step does not come first. -/
theorem Step.Before.not_precedes (h : a.Before b) : ¬Precedes (b :: q) (a :: p) := by
  rintro (_ | h' | h')
  · exact h.asymm h'
  · exact Step.Before.irrefl _ h

end Paths

/-! ### Paths in pieces -/

/-- A path goes on where its beginning ends. -/
theorem Node.reaches_append_iff {n k : Node} {p q : List Step} :
    n.Reaches (p ++ q) k ↔ ∃ o, n.Reaches p o ∧ o.Reaches q k := by
  induction p generalizing n with
  | nil =>
      constructor
      · exact fun h => ⟨n, .self n, h⟩
      · rintro ⟨o, _ | _, h⟩
        exact h
  | cons step p ih =>
      constructor
      · rintro (_ | ⟨hholds, hpath⟩)
        obtain ⟨o, hp, hq⟩ := ih.1 hpath
        exact ⟨o, .inside hholds hp, hq⟩
      · rintro ⟨o, _ | ⟨hholds, hp⟩, hq⟩
        exact .inside hholds (ih.2 ⟨o, hp, hq⟩)

/-- A path of a module goes on where its beginning ends. -/
theorem Module.reaches_append_iff {m : Module} {k : Node} {p q : List Step} (hp : p ≠ []) :
    m.Reaches (p ++ q) k ↔ ∃ o, m.Reaches p o ∧ o.Reaches q k := by
  obtain ⟨step, p, rfl⟩ := List.exists_cons_of_ne_nil hp
  constructor
  · rintro ⟨hindex, hstatement, hpath⟩
    obtain ⟨o, hp, hq⟩ := Node.reaches_append_iff.1 hpath
    exact ⟨o, .intro hindex hstatement hp, hq⟩
  · rintro ⟨o, ⟨hindex, hstatement, hp⟩, hq⟩
    exact .intro hindex hstatement (Node.reaches_append_iff.2 ⟨o, hp, hq⟩)

namespace Module

/-- A path of a module has a first step. -/
theorem Reaches.ne_nil {m : Module} {path : List Step} {n : Node} (h : m.Reaches path n) :
    path ≠ [] := by
  obtain ⟨-, -, -⟩ := h
  exact List.cons_ne_nil _ _

/-- **The statements around one** are those at the beginnings of its path. -/
theorem Reaches.around {m : Module} {path : List Step} {n : Node} (h : m.Reaches path n) :
    ∃ outers : List (List Step), outers.Nodup ∧ outers.length = path.length - 1 ∧
      ∀ outer, outer ∈ outers ↔ Encloses outer path ∧ ∃ k, m.Reaches outer k := by
  refine ⟨(List.range (path.length - 1)).map fun k => path.take (k + 1), ?_, ?_, fun outer => ?_⟩
  · refine List.nodup_range.map_on fun a ha b hb heq => ?_
    rw [List.mem_range] at ha hb
    have hlength := congrArg List.length heq
    rw [List.length_take, List.length_take] at hlength
    omega
  · rw [List.length_map, List.length_range]
  · simp only [List.mem_map, List.mem_range]
    constructor
    · rintro ⟨k, hk, rfl⟩
      have hne : path.take (k + 1) ≠ [] := by
        rw [Ne, List.take_eq_nil_iff, not_or]
        exact ⟨Nat.succ_ne_zero k, h.ne_nil⟩
      have hencloses : Encloses (path.take (k + 1)) path := encloses_take (by omega)
      rw [← List.take_append_drop (k + 1) path, reaches_append_iff hne] at h
      obtain ⟨o, houter, -⟩ := h
      exact ⟨hencloses, o, houter⟩
    · rintro ⟨hencloses, o, houter⟩
      have hpos := List.length_pos_iff.2 houter.ne_nil
      have hlt := hencloses.length_lt
      refine ⟨outer.length - 1, by omega, ?_⟩
      rw [Nat.sub_add_cancel hpos]
      exact hencloses.take_eq

end Module

end HostProps
