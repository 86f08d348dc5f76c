import HostProps.Syntax.Node

/-!
# Where comments go

A comment is printed with a node, so each comment is given an anchor: a position at which some node
starts, to stand in front of that node, or one at which some node ends, to stand after it.

* A comment goes in front of the next node that starts after it.
* If no node starts between the comment and the end of the smallest node around it, as in
  `{/* a */}`, then it goes in front of that node.
* If nothing starts after it and nothing is around it, it goes after the last node that ends before
  it.

Only the spans of nodes that were written count, so generated nodes attract no comments.
-/

namespace HostProps

/-- The position that a comment is printed at, and on which side. -/
inductive Anchor where
  | leading (position : Nat)
  | trailing (position : Nat)
deriving DecidableEq, Repr

namespace Anchor

def position : Anchor → Nat
  | leading p => p
  | trailing p => p

end Anchor

/-! ### Searching sorted arrays -/

/-- Where a test stops to hold in the stretch of an array from `low` to `high`, if it holds in front
of that place and not from it on. The stretch is halved until nothing is left of it. -/
def bisect (p : Nat → Bool) (a : Array Nat) (low high : Nat) (hhigh : high ≤ a.size) : Nat :=
  if hlow : low < high then
    let middle := low + (high - low) / 2
    have hmiddle : middle < a.size := by omega
    if p a[middle] then bisect p a (middle + 1) high hhigh
    else bisect p a low middle (Nat.le_of_lt hmiddle)
  else low
termination_by high - low

/-- How many items of an array pass a test, if those that do are in front of all others. -/
def partitionPoint (p : Nat → Bool) (a : Array Nat) : Nat :=
  bisect p a 0 a.size (Nat.le_refl a.size)

/-! ### Landmarks -/

/-- The spans that comments are placed by, in the order in which they are visited, with all starts
and all ends in ascending order. -/
structure Landmarks where
  spans : List Span
  starts : Array Nat
  ends : Array Nat

namespace Landmarks

/-- The landmarks of some spans: generated nodes are left out. -/
def ofSpans (spans : List Span) : Landmarks :=
  let spans := spans.filter (!·.isDummy)
  ⟨spans, (spans.map Span.lo).mergeSort.toArray, (spans.map Span.hi).mergeSort.toArray⟩

/-- The first start at or after the end of a comment. -/
def next? (l : Landmarks) (c : Span) : Option Nat :=
  l.starts[partitionPoint (· < c.hi) l.starts]?

/-- The last end at or before the start of a comment. -/
def previous? (l : Landmarks) (c : Span) : Option Nat :=
  match partitionPoint (· ≤ c.lo) l.ends with
  | 0 => none
  | index + 1 => l.ends[index]?

/-- Does a node start before a comment and end after it? -/
def encloses (c node : Span) : Bool :=
  decide (node.lo < c.lo) && decide (c.hi ≤ node.hi)

/-- The narrower of two spans; the one that was visited first if they are equally wide. -/
def narrower (best? : Option Span) (s : Span) : Option Span :=
  match best? with
  | some best => if s.width < best.width then some s else some best
  | none => some s

/-- The narrowest node around a comment. -/
def enclosing? (l : Landmarks) (c : Span) : Option Span :=
  (l.spans.filter (encloses c)).foldl narrower none

/-- Where a comment with a span goes. -/
def anchor (l : Landmarks) (c : Span) : Anchor :=
  let next := l.next? c
  let inFrontOfNext :=
    match next with
    | some position => .leading position
    | none => .trailing ((l.previous? c).getD c.lo)
  match l.enclosing? c with
  | some node => if next.all (node.hi ≤ ·) then .leading node.lo else inFrontOfNext
  | none => inFrontOfNext

end Landmarks

/-- The comments of a document with their anchors, in order. -/
def Program.anchors (p : Program) : List (Anchor × Comment) :=
  let landmarks := Landmarks.ofSpans p.module.spans
  p.comments.map fun c => (landmarks.anchor c.span, c)

end HostProps
