import HostProps.Comment.Placement

/-!
# Pages

A page is a text under way: what is written so far, how far lines are indented, and the comments
that wait for the node they are printed with.  A `Printer` is a step that writes on a page.
-/

namespace HostProps

/-- A text under way. -/
structure Page where
  text : String
  /-- Nothing is on the line yet, not even its indent. -/
  atLineStart : Bool
  /-- How many levels lines are indented by. -/
  indent : Nat
  /-- Comments to print in front of the node that starts at a position. -/
  leading : List (Nat × Comment)
  /-- Comments to print after the node that ends at a position. -/
  trailing : List (Nat × Comment)

namespace Page

/-- An empty page, with the comments that are to be printed on it. -/
def blank (anchors : List (Anchor × Comment)) : Page where
  text := ""
  atLineStart := true
  indent := 0
  leading := anchors.filterMap fun
    | (.leading p, c) => some (p, c)
    | _ => none
  trailing := anchors.filterMap fun
    | (.trailing p, c) => some (p, c)
    | _ => none

/-- The indent of one level. -/
def indentText : String := "    "

/-- Write some text, after the indent if it is the first on its line. -/
def write (s : String) (p : Page) : Page :=
  if s.isEmpty then p
  else if p.atLineStart then
    { p with
      text := p.text ++ String.join (List.replicate p.indent indentText) ++ s
      atLineStart := false }
  else { p with text := p.text ++ s }

/-- End the line, unless nothing is on it. -/
def newline (p : Page) : Page :=
  if p.atLineStart then p else { p with text := p.text ++ "\n", atLineStart := true }

/-- Write a comment, after a blank or not.  A block comment is followed by a blank. -/
def comment (blankBefore : Bool) (c : Comment) (p : Page) : Page :=
  let p := if blankBefore then p.write " " else p
  match c.kind with
  | .line => ((p.write "//").write c.text).newline
  | .block => (((p.write "/*").write c.text).write "*/").write " "

/-- Write the comments in front of a position.  Position zero is nowhere. -/
def leadingComments (position : Nat) (p : Page) : Page :=
  if position = 0 then p
  else
    let (here, others) := p.leading.partition (·.1 == position)
    here.foldl (fun p c => p.comment false c.2) { p with leading := others }

/-- Write the comments after a position. -/
def trailingComments (position : Nat) (p : Page) : Page :=
  if position = 0 then p
  else
    let (here, others) := p.trailing.partition (·.1 == position)
    here.foldl (fun p c => p.comment true c.2) { p with trailing := others }

end Page

/-- A step that writes on a page. -/
abbrev Printer := StateM Page Unit

namespace Printer

def write (s : String) : Printer := modify (·.write s)

def newline : Printer := modify (·.newline)

def blank : Printer := write " "

/-- Print with lines indented by one more level. -/
def indented (body : Printer) : Printer := do
  modify fun p => { p with indent := p.indent + 1 }
  body
  modify fun p => { p with indent := p.indent - 1 }

/-- The comments in front of a node with a span. -/
def leading (s : Span) : Printer :=
  if s.isDummy then pure () else modify (·.leadingComments s.lo)

/-- The comments in front of the last character of a node with a span. -/
def leadingLast (s : Span) : Printer :=
  if s.isDummy then pure () else modify (·.leadingComments (s.hi - 1))

/-- End the line if comments wait in front of the last character of a node with a span. -/
def newlineIfLeadingLast (s : Span) : Printer :=
  modify fun p =>
    if !s.isDummy && p.leading.any (·.1 == s.hi - 1) then p.newline else p

/-- The comments after a node with a span. -/
def trailing (s : Span) : Printer := modify (·.trailingComments s.hi)

/-- Print if there is something to print. -/
def optional {α : Type} (o : Option α) (print : α → Printer) : Printer :=
  match o with
  | some a => print a
  | none => pure ()

/-- Print if a condition holds. -/
def when (b : Bool) (body : Printer) : Printer := if b then body else pure ()

end Printer

end HostProps
