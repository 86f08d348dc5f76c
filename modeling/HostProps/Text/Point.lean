/-!
# Lines and columns

A line ends at a line feed, a carriage return, or the two together.  Lines and columns count from
one, and columns count bytes, like offsets.  The offset just past the text has a point, later ones
have none.
-/

namespace HostProps

/-- A place in a text. -/
structure Point where
  line : Nat
  column : Nat
  offset : Nat
deriving DecidableEq, Inhabited, Repr

/-- The offsets at which the lines after the first one start, where `offset` is that of the text
left. -/
def lineStarts (offset : Nat) : List Char → List Nat
  | [] => []
  | '\r' :: '\n' :: rest => (offset + 2) :: lineStarts (offset + 2) rest
  | c :: rest =>
    if c = '\r' ∨ c = '\n' then (offset + 1) :: lineStarts (offset + 1) rest
    else lineStarts (offset + c.utf8Size) rest

namespace Point

/-- The point at an offset of a text. -/
def ofOffset? (text : String) (offset : Nat) : Option Point :=
  if offset ≤ text.utf8ByteSize then
    let reached := (lineStarts 0 text.toList).filter (· ≤ offset)
    some ⟨reached.length + 1, offset + 1 - reached.getLast?.getD 0, offset⟩
  else none

/-- The point at a position, which counts from one; position zero is nowhere. -/
def ofPosition? (text : String) : Nat → Option Point
  | 0 => none
  | offset + 1 => ofOffset? text offset

end Point

/-- Why and where a text could not be read. -/
structure Failure where
  reason : String
  point : Option Point
deriving DecidableEq, Inhabited, Repr

/-- The reason, after the line and the column if they are known. -/
def Failure.message (f : Failure) : String :=
  match f.point with
  | some p => toString p.line ++ ":" ++ toString p.column ++ " " ++ f.reason
  | none => f.reason

end HostProps
