import HostProps.Parser.ModuleItem

/-!
# Reading a text

`Goal.read` ties the parsers together: what is nested in a construct is read by the same parsers,
one level further down.  A level reads at least one character of its own, so a text has no more
levels than characters, and `Module.parse?` starts with as many.

`Program.parse?` is the tree and the comments of a text, or what is wrong with it.
-/

namespace HostProps

namespace Goal

/-- How what is nested is read. -/
def rule (inner : Inner) : Goal → Parser Node
  | statement => Parser.nestedStatement inner false
  | listItem => Parser.nestedStatement inner true
  | expression => Parser.expression inner
  | assignment => Parser.assignment inner
  | unary => Parser.unary inner
  | access => Parser.access inner
  | constructor => Parser.members inner false
  | binding => Parser.binding inner
  | element => Parser.element inner

/-- Read what is nested, down to a number of levels. -/
def read : Nat → Inner
  | 0 => fun _ => Parser.failHere .expressionExpected
  | levels + 1 => rule (read levels)

end Goal

namespace Parser

/-- Read the statements, imports and exports of a module. -/
def module (levels : Nat) (interpreter : Option String) (start : Nat) : Parser Module := do
  let lo ← if interpreter.isSome then pure start else position
  let items ← collect isFinish (moduleItem (Goal.read levels))
  return ⟨← spanFrom lo, items, interpreter⟩

end Parser

/-- The interpreter that the first line of a text may name, and the place after it. -/
def Cursor.interpreter? (start : Cursor) : Option String × Cursor :=
  if start.startsWith "#!" then
    let (name, after) := (start.skip 2).span (!endsLine ·)
    (some (String.ofList name), after)
  else (none, start)

/-- The state before the first token. -/
def Reading.start (limit : Nat) (cursor : Cursor) : Reading where
  limit
  current := ⟨.finish, ⟨cursor.position, cursor.position⟩, false⟩
  before := cursor
  after := cursor
  previous := ⟨cursor.position, cursor.position⟩
  comments := []
  reported? := none

/-- The module that a text is, with its comments in order, or what is wrong with it. -/
def Module.parse? (text : String) : Except Fault (Module × List Comment) :=
  let start := Cursor.start text
  let levels := start.rest.length + 1
  let (interpreter, first) := start.interpreter?
  let parser : Parser Module := do
    Parser.goTo ⟨start.position, first.position⟩ first
    Parser.module levels interpreter start.position
  match parser.run Scope.ofModule (Reading.start levels first) with
  | .error fault _ => .error fault
  | .ok m r =>
    match r.reported? with
    | some fault => .error fault
    | none => .ok (m, r.comments.reverse)

/-- The program that a text is, or what is wrong with it. -/
def Program.parse? (path : Option String) (text : String) : Except Failure Program :=
  match Module.parse? text with
  | .ok (m, comments) => .ok ⟨path, m, comments⟩
  | .error fault => .error (fault.failure text)

end HostProps
