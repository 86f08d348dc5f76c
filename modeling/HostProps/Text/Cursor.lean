/-!
# Cursors

A cursor is a place in a text that is being read: the characters that are left, and the position of
the first of them.  Positions count bytes from one.
-/

namespace HostProps

/-- A place in a text that is being read. -/
structure Cursor where
  rest : List Char
  position : Nat
deriving DecidableEq, Inhabited, Repr

namespace Cursor

/-- The start of a text. -/
def start (text : String) : Cursor := ⟨text.toList, 1⟩

/-- Go past some characters. -/
def skip : Nat → Cursor → Cursor
  | n + 1, ⟨c :: rest, position⟩ => skip n ⟨rest, position + c.utf8Size⟩
  | _, cursor => cursor

/-- Go past the characters that satisfy a condition; `acc` holds those passed, the last first. -/
def spanLoop (p : Char → Bool) (acc : List Char) : List Char → Nat → List Char × Cursor
  | [], position => (acc.reverse, ⟨[], position⟩)
  | c :: rest, position =>
    if p c then spanLoop p (c :: acc) rest (position + c.utf8Size)
    else (acc.reverse, ⟨c :: rest, position⟩)

/-- The characters up to the first that does not satisfy a condition, and the place after them. -/
def span (p : Char → Bool) (cursor : Cursor) : List Char × Cursor :=
  spanLoop p [] cursor.rest cursor.position

/-- Does the rest of the text start like this? -/
def startsWith (cursor : Cursor) (s : String) : Bool :=
  s.toList.isPrefixOf cursor.rest

/-- The first of some characters, as many as fill a number of bytes. -/
def takeBytes : Nat → List Char → List Char
  | 0, _ => []
  | _, [] => []
  | n, c :: rest => c :: takeBytes (n - c.utf8Size) rest

/-- The text from one place to a later one. -/
def textTo (first last : Cursor) : String :=
  String.ofList (takeBytes (last.position - first.position) first.rest)

end Cursor

/-- A character that ends a line. -/
def endsLine (c : Char) : Bool :=
  c = '\n' || c = '\r' || c = '\u2028' || c = '\u2029'

/-- A character between tokens that does not end a line. -/
def isBlank (c : Char) : Bool :=
  c = ' ' || c = '\t' || c = '\u000b' || c = '\u000c' || c = '\u0085' || c = '\u00a0' ||
    c = '\ufeff' || c = '\u1680' || ('\u2000' ≤ c && c ≤ '\u200a') || c = '\u202f' ||
    c = '\u205f' || c = '\u3000'

end HostProps
