import HostProps.Arguments
import HostProps.RuntimeExports
import Mathlib.Logic.Basic

/-!
# Reasoning about Trees

A node is a head with a list of parts, so a statement about all trees is proved for a node from the
statement about each of its parts, whatever the construct: `Node.induction` is the only induction on
trees that the theory needs. A function on trees that is defined together with one on lists of parts
is brought into this form by saying that the second maps the first (`Node.spansOfParts_eq_map`, and
its likes beside the other functions).

Much of what the pass asks about a node depends on its head alone. These questions have the same
answer for any two nodes of one head, whatever happened to their parts.

## Main results

* `Node.induction`: induction on trees.
* `Node.Compositional`: functions on trees that are computed from the inside out.
* `Node.mem_spans_mk`: the spans of a tree are those of its head and of its parts.
* `Node.congr_of_head` and its cases: questions about the head alone.
-/

namespace HostProps

namespace Node

/-- **Induction on trees**: what holds for a node whenever it holds for its parts holds for all
trees. -/
@[induction_eliminator]
theorem induction {motive : Node → Prop}
    (mk : ∀ h ps, (∀ n ∈ ps, motive n) → motive (.mk h ps)) (n : Node) : motive n :=
  match n with
  | .mk h ps => mk h ps fun n _ => induction mk n

/-- At nodes of some head a function on trees is computed from the inside out: its value there
depends on its values at the parts alone. -/
def CompositionalAt {α : Type} (F : Node → α) (h : Head) : Prop :=
  ∀ ps qs, ps.map F = qs.map F → F (mk h ps) = F (mk h qs)

/-- A function on trees that is computed from the inside out everywhere. -/
def Compositional {α : Type} (F : Node → α) : Prop :=
  ∀ h, CompositionalAt F h

/-! ### Spans -/

/-- The spans of the parts are those of each part. -/
theorem spansOfParts_eq_map (ns : List Node) : spansOfParts ns = ns.map spans := by
  induction ns with
  | nil => rfl
  | cons n ns ih => rw [spansOfParts, ih, List.map_cons]

/-- The spans of a node: its own between those of its parts. -/
theorem spans_mk (h : Head) (ps : List Node) :
    (mk h ps).spans = placeSpans h.lead h.spans (ps.map spans) := by
  rw [spans, spansOfParts_eq_map]

/-- Placing the spans of a node between those of its parts loses none and adds none. -/
theorem mem_placeSpans {s : Span} {lead : Nat} {own : List Span} {parts : List (List Span)} :
    s ∈ placeSpans lead own parts ↔ s ∈ own ∨ ∃ l ∈ parts, s ∈ l := by
  have hflat : s ∈ parts.flatten ↔
      s ∈ (parts.take lead).flatten ∨ s ∈ (parts.drop lead).flatten := by
    rw [← List.mem_append, ← List.flatten_append, List.take_append_drop]
  rw [placeSpans, List.append_assoc, List.mem_append, List.mem_append, ← List.mem_flatten, hflat]
  exact or_left_comm

/-- The spans of a tree are those of its head and those of its parts. -/
theorem mem_spans_mk {s : Span} {h : Head} {ps : List Node} :
    s ∈ (mk h ps).spans ↔ s ∈ h.spans ∨ ∃ n ∈ ps, s ∈ n.spans := by
  rw [spans_mk, mem_placeSpans]
  simp only [List.mem_map, exists_exists_and_eq_and]

/-! ### Questions about the head -/

section HeadOnly

variable {n m : Node}

/-- A question that does not look at the parts has one answer for all nodes of one head. -/
theorem congr_of_head {α : Type} {f : Node → α} (hf : ∀ h ps qs, f (mk h ps) = f (mk h qs))
    (h : n.head = m.head) : f n = f m := by
  cases n with
  | mk hn ps =>
      cases m with
      | mk hm qs =>
          obtain rfl : hn = hm := h
          exact hf hn ps qs

/-- Two nodes of one head are both missing or both there. -/
theorem isAbsent_congr (h : n.head = m.head) : n.isAbsent = m.isAbsent :=
  congr_of_head (fun h _ _ => by cases h <;> rfl) h

/-- Two keys of one head are the same name or string. -/
theorem staticKey?_congr (h : n.head = m.head) : n.staticKey? = m.staticKey? :=
  congr_of_head (fun h _ _ => by cases h <;> rfl) h

/-- Two patterns of one head bind the same variable, if they consist of one. -/
theorem binding?_congr (h : n.head = m.head) : n.binding? = m.binding? :=
  congr_of_head (fun h _ _ => by cases h <;> rfl) h

/-- Two expressions of one head are the same variable, if they are one. -/
theorem reference?_congr (h : n.head = m.head) : n.reference? = m.reference? :=
  congr_of_head (fun h _ _ => by cases h <;> rfl) h

/-- Two nodes of one head are both rest elements or both not. -/
theorem isRest_congr (h : n.head = m.head) : n.isRest = m.isRest :=
  congr_of_head (fun h _ _ => by cases h <;> rfl) h

/-- Two statements of one head both declare variables or both do not. -/
theorem isVariableDeclaration_congr (h : n.head = m.head) :
    n.isVariableDeclaration = m.isVariableDeclaration :=
  congr_of_head (fun h _ _ => by cases h <;> rfl) h

end HeadOnly

end Node

end HostProps
