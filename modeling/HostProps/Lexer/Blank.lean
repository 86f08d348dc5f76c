import HostProps.Syntax.Span
import HostProps.Text.Cursor
import HostProps.Text.Fault

/-!
# Between tokens

Blanks, ends of lines and comments stand between tokens.  A comment is kept, and so is whether a
line ended, also inside of a comment.  The text is read by three functions that go over its
characters one by one: one between comments, one in a comment up to the end of the line, and one in
a comment between markers.
-/

namespace HostProps

/-- What stands between two tokens, and the place of the second. -/
structure Gap where
  cursor : Cursor
  hasNewline : Bool
  /-- The comments, the last first. -/
  comments : List Comment
  /-- The text ends in a comment. -/
  fault? : Option Fault
deriving DecidableEq, Inhabited, Repr

namespace Gap

/-- A comment from its characters, the last first. -/
def comment (kind : CommentKind) (lo hi : Nat) (text : List Char) : Comment :=
  ⟨kind, ⟨lo, hi⟩, String.ofList text.reverse⟩

mutual

/-- Read up to the next token. -/
def read (hasNewline : Bool) (comments : List Comment) (position : Nat) : List Char → Gap
  | [] => ⟨⟨[], position⟩, hasNewline, comments, none⟩
  | '/' :: '/' :: rest => readLine position hasNewline comments [] (position + 2) rest
  | '/' :: '*' :: rest => readBlock position hasNewline comments [] (position + 2) rest
  | c :: rest =>
    if endsLine c then read true comments (position + c.utf8Size) rest
    else if isBlank c then read hasNewline comments (position + c.utf8Size) rest
    else ⟨⟨c :: rest, position⟩, hasNewline, comments, none⟩

/-- Read a comment that ends with its line and started at `lo`; `text` is read already, the last
character first. -/
def readLine (lo : Nat) (hasNewline : Bool) (comments : List Comment) (text : List Char)
    (position : Nat) : List Char → Gap
  | [] => ⟨⟨[], position⟩, hasNewline, comment .line lo position text :: comments, none⟩
  | c :: rest =>
    if endsLine c then
      read true (comment .line lo position text :: comments) (position + c.utf8Size) rest
    else readLine lo hasNewline comments (c :: text) (position + c.utf8Size) rest

/-- Read a comment that ends with a marker and started at `lo`. -/
def readBlock (lo : Nat) (hasNewline : Bool) (comments : List Comment) (text : List Char)
    (position : Nat) : List Char → Gap
  | [] => ⟨⟨[], position⟩, hasNewline, comments, some ⟨.unterminatedComment, position⟩⟩
  | '*' :: '/' :: rest =>
    read hasNewline (comment .block lo (position + 2) text :: comments) (position + 2) rest
  | c :: rest =>
    readBlock lo (hasNewline || endsLine c) comments (c :: text) (position + c.utf8Size) rest

end

end Gap

end HostProps
