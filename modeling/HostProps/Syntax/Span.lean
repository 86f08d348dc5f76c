import HostProps.Json

/-!
# Places in a text

Positions count bytes of the UTF-8 text from one, so that zero is free to mean "nowhere": the
span from zero to zero belongs to nodes that were generated and have no place in any text.
-/

namespace HostProps

/-- The stretch of text from position `lo` up to, and without, position `hi`. -/
structure Span where
  lo : Nat
  hi : Nat
deriving DecidableEq, Inhabited, Repr

namespace Span

/-- The place of a generated node. -/
def dummy : Span := ⟨0, 0⟩

/-- A generated node is nowhere. -/
def isDummy (s : Span) : Bool := s == dummy

/-- How many bytes a span covers. -/
def width (s : Span) : Nat := s.hi - s.lo

/-- The span from the start of one to the end of another. -/
def through (first last : Span) : Span := ⟨first.lo, last.hi⟩

end Span

/-- Where a node comes from: its span, and the hygiene context that tells apart identifiers of the
same name (zero for text as written).

A typed dialect of the language adds fields to some nodes, such as the type of a variable.  They
mean nothing here, so those that do not have their default are kept as they are. -/
structure Origin where
  span : Span
  context : Nat
  /-- Fields of a typed dialect with their values. -/
  annotations : List (String × Json)
deriving DecidableEq, Inhabited, Repr

namespace Origin

/-- The origin of a generated node. -/
def generated : Origin := ⟨Span.dummy, 0, []⟩

/-- The origin of a node that was written at a span. -/
def written (span : Span) : Origin := ⟨span, 0, []⟩

/-- Is a flag of a typed dialect set? -/
def isFlagged (name : String) (o : Origin) : Bool :=
  o.annotations.any fun a => a.1 == name && a.2 == .bool true

/-- The words for the flags that are set, of some with their words. -/
def words (flags : List (String × String)) (o : Origin) : String :=
  String.join ((flags.filter fun f => o.isFlagged f.1).map (·.2))

end Origin

/-- `// text` or `/* text */`. -/
inductive CommentKind where
  | line
  | block
deriving DecidableEq, Inhabited, Repr

/-- A comment; `text` is what stands between its markers. -/
structure Comment where
  kind : CommentKind
  span : Span
  text : String
deriving DecidableEq, Inhabited, Repr

end HostProps
