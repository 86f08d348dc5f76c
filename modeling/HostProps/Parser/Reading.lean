import HostProps.Lexer.Scan
import HostProps.Syntax.View

/-!
# Reading a program

A `Parser` reads some tokens and yields what they mean.  It knows the token at hand, the span of the
one before, and the scope it reads in; it collects the comments it passes.

It can `fail`, or `report` a fault and read on: of the faults that are reported the first counts,
but a failure that ends the reading counts more than all of them.  A failure does not undo what was
read: the few places that go on after one go on from there.  A token that cannot be read is a
failure once it is asked for, with `someToken`, and is reported if something else is wrong there.
-/

namespace HostProps

/-- What may stand where the parser reads. -/
structure Scope where
  /-- `in` is an operator here, and does not end the head of a loop. -/
  allowsIn : Bool
  isAsync : Bool
  isGenerator : Bool
  inFunction : Bool
  allowsBreak : Bool
  allowsContinue : Bool
  /-- The labels of the statements around. -/
  labels : List String
  /-- Where an expression starts that may turn out to be an arrow function. -/
  arrowStart : Nat

/-- The scope of the statements of a module. -/
def Scope.ofModule : Scope := ⟨true, false, false, false, false, false, [], 0⟩

/-- The scope of the body of a function. -/
def Scope.body (s : Scope) (isAsync isGenerator : Bool) : Scope :=
  { s with
    isAsync, isGenerator, inFunction := true, allowsBreak := false, allowsContinue := false
    labels := [] }

/-- The scope of the body of a loop. -/
def Scope.loop (s : Scope) : Scope := { s with allowsBreak := true, allowsContinue := true }

/-- How far a text is read. -/
structure Reading where
  /-- A number of steps that no reading of the text exceeds. -/
  limit : Nat
  current : Lexeme
  /-- The place of the current token. -/
  before : Cursor
  /-- The place after the current token. -/
  after : Cursor
  /-- The span of the token before the current one. -/
  previous : Span
  /-- The comments so far, the last first. -/
  comments : List Comment
  /-- The first fault that was reported. -/
  reported? : Option Fault

/-- A step that reads some tokens. -/
abbrev Parser := ReaderT Scope (EStateM Fault Reading)

namespace Parser

/-! ### The token at hand -/

def token : Parser Token := return (← get).current.token

/-- The span of the token at hand; at the end of the text, that of the last one. -/
def span : Parser Span := do
  let r ← get
  match r.current.token with
  | .finish => return r.previous
  | _ => return r.current.span

/-- Where the next construct starts; at the end of the text, where the last token ends. -/
def position : Parser Nat := do
  let r ← get
  match r.current.token with
  | .finish => return r.previous.hi
  | _ => return r.current.span.lo

/-- The span from a position to the end of the last token. -/
def spanFrom (lo : Nat) : Parser Span := return ⟨lo, (← get).previous.hi⟩

/-- Does a line end in front of the token at hand? -/
def isAfterNewline : Parser Bool := return (← get).current.isAfterNewline

def isFinish : Parser Bool := return (← token) == .finish

def isSymbol (s : String) : Parser Bool := return (← token) == .symbol s

def isWord (s : String) : Parser Bool := return (← token) == .word s false

/-- The token after the one at hand. -/
def peek : Parser Lexeme := do
  let r ← get
  return (Scan.next r.limit r.after).lexeme

/-! ### Going on -/

/-- Note a fault.  Only the first counts. -/
def note (fault : Fault) : Parser Unit :=
  modify fun r => { r with reported? := r.reported? <|> some fault }

/-- Go on to the next token after a cursor. -/
def goTo (previous : Span) (cursor : Cursor) : Parser Unit :=
  modify fun r =>
    let scan := Scan.next r.limit cursor
    { r with
      current := scan.lexeme
      before := scan.before
      after := scan.after
      previous
      comments := scan.comments ++ r.comments
      reported? := r.reported? <|> scan.fault? }

/-- Go on to the next token.  There is none after the end of the text, nor after a regular
expression that does not end. -/
def advance : Parser Unit := do
  let r ← get
  match r.current.token with
  | .finish | .invalid ⟨.unterminatedRegExp, _⟩ => pure ()
  | _ => goTo r.current.span r.after

/-- The token at hand, of which there must be one.  If the text ends, it is its end that is pointed
at, after all blanks and comments. -/
def someToken : Parser Token := do
  match ← token with
  | .finish => throw ⟨.unexpectedEnd, (← get).current.span.lo⟩
  | .invalid fault =>
    advance
    throw fault
  | t => return t

/-! ### Faults -/

/-- Note a token that cannot be read, and go past it. -/
def passInvalid : Parser Unit := do
  match ← token with
  | .invalid fault =>
    advance
    note fault
  | _ => pure ()

/-- End the reading. -/
def fail {α : Type} (cause : Cause) (position : Nat) : Parser α := do
  passInvalid
  throw ⟨cause, position⟩

/-- Note a fault and read on.  Strictness is judged from what was read already: it leaves a token
that cannot be read at hand. -/
def report (cause : Cause) (position : Nat) : Parser Unit := do
  unless cause.isOfStrictness do passInvalid
  note ⟨cause, position⟩

def reportIf (condition : Bool) (cause : Cause) (position : Nat) : Parser Unit :=
  if condition then report cause position else pure ()

/-- End the reading at the token at hand. -/
def failHere {α : Type} (cause : Cause) : Parser α := do fail cause (← span).lo

/-! ### What must follow -/

/-- Go past a symbol if it is at hand. -/
def eat (s : String) : Parser Bool := do
  if ← isSymbol s then
    advance
    return true
  else return false

/-- Go past a keyword if it is at hand. -/
def eatWord (s : String) : Parser Bool := do
  if ← isWord s then
    advance
    return true
  else return false

/-- Fail since something else is at hand than should be. -/
def failExpected {α : Type} (what : String) : Parser α := do
  failHere (.expected what (← token).shown)

def failUnexpected {α : Type} (expected : String) : Parser α := do
  failHere (.unexpected (← token).shown expected)

/-- Go past a symbol that must be at hand. -/
def expect (s : String) : Parser Unit := do
  unless ← eat s do failExpected s

/-- Go past a keyword that must be at hand. -/
def expectWord (s : String) : Parser Unit := do
  unless ← eatWord s do failExpected s

/-- Can a statement end here?  A semicolon may be left out before a closing brace, at the end of the
text and at the end of a line. -/
def atStatementEnd : Parser Bool := do
  match ← token with
  | .symbol ";" | .symbol "\x7d" | .finish => return true
  | _ => isAfterNewline

/-- End a statement if it can end here. -/
def eatSemicolon : Parser Bool := do
  if ← eat ";" then return true else atStatementEnd

/-- End a statement, which must be possible here. -/
def expectSemicolon : Parser Unit := do
  unless ← eatSemicolon do failExpected ";"

/-- Is a closing symbol at hand, or the end of the text? -/
def atClose (close : String) : Parser Bool := do
  return (← isSymbol close) || (← isFinish)

/-! ### Repetition -/

/-- Read items until a condition holds, but no more than a number of them; `acc` holds those read,
the last first. -/
def collectLoop {α : Type} (stop : Parser Bool) (item : Parser α) :
    Nat → List α → Parser (List α)
  | 0, acc => return acc.reverse
  | n + 1, acc => do
    if ← stop then return acc.reverse
    else
      let x ← item
      collectLoop stop item n (x :: acc)

/-- Read items until a condition holds. -/
def collect {α : Type} (stop : Parser Bool) (item : Parser α) : Parser (List α) := do
  collectLoop stop item (← get).limit []

/-- Read items with commas between them up to a closing symbol; a comma may be after the last.
`stop` tells when there are no more items. -/
def commaList {α : Type} (stop : Parser Bool) (close : String) (item : Parser α) :
    Parser (List α) := do
  let items ← collect stop do
    let x ← item
    unless ← isSymbol close do expect ","
    return x
  expect close
  return items

/-! ### Trees -/

/-- The node of a construct that starts at a position and ends with the last token. -/
def finish (form : Form) (lo : Nat) (parts : List Node) : Parser Node := do
  return .plain form (.written (← spanFrom lo)) parts

/-- Read where `in` is an operator. -/
def allowingIn {α : Type} (p : Parser α) : Parser α :=
  withReader (fun s => { s with allowsIn := true }) p

/-- An optional part, which is there if a condition holds. -/
def optionalPart (condition : Bool) (p : Parser Node) : Parser Node :=
  if condition then p else return .absent

end Parser

/-! ### What a text consists of -/

/-- What can be nested in itself. -/
inductive Goal where
  /-- A statement in a place for one only, such as the body of a loop. -/
  | statement
  /-- A statement or a declaration, one of many. -/
  | listItem
  /-- Expressions with commas between them. -/
  | expression
  /-- An expression without commas. -/
  | assignment
  /-- An operand. -/
  | unary
  /-- An expression without operators, with members and calls. -/
  | access
  /-- The function of a `new`: as before, but without calls. -/
  | constructor
  /-- A variable or a pattern that declares some. -/
  | binding
  /-- An element, up to the end of its last tag. -/
  | element
deriving DecidableEq, Inhabited, Repr

/-- The parsers of what is nested in the construct at hand. -/
abbrev Inner := Goal → Parser Node

end HostProps
