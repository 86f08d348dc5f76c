import HostProps.Parser.Access

/-!
# Expressions with operators

Operands and the binary operators between them are read from left to right.  Those that wait for
their right operand are on a stack, and are combined as soon as an operator follows that binds no
tighter.  Around them are conditions, assignments and sequences.
-/

namespace HostProps

/-- Does an operator on the stack take its operands before one that follows?  Powers are combined
from the right, all others from the left. -/
def BinaryOperator.precedes (waiting next : BinaryOperator) : Bool :=
  next.precedence < waiting.precedence ||
    (next.precedence == waiting.precedence && next != .power)

namespace Parser

/-! ### Operands -/

/-- Read something, and report what is wrong with it if that is in the way. -/
def orReport (p : Parser Node) : Parser Node :=
  try p
  catch f => do
    report f.cause f.position
    return .absent

/-- Is `await` the name of a variable, by what follows it? -/
def endsAwait : Parser Bool := do
  match ← token with
  | .symbol ")" | .symbol "]" | .symbol "," => return true
  | _ => atStatementEnd

/-- Read `await` and what it waits for. -/
def awaitExpression (inner : Inner) : Parser Node := do
  let lo ← position
  expectWord "await"
  let scope ← read
  if ← isSymbol "*" then failHere .awaitWithStar
  if !scope.isAsync && (← endsAwait) then
    let s ← spanFrom lo
    report .awaitAsName lo
    return .mk (.reference (.written s) "await") []
  else
    reportIf (scope.inFunction && !scope.isAsync) .awaitOutsideAsync (← span).lo
    let operand ← inner .unary
    finish .await lo [operand]

/-- The operator in front of an operand. -/
def prefixOperator? : Parser (Option UnaryOperator) := do
  match ← token with
  | .symbol s | .word s false => return UnaryOperator.ofText? s
  | _ => return none

def updateOperator? : Parser (Option UpdateOperator) := do
  match ← token with
  | .symbol s => return UpdateOperator.ofText? s
  | _ => return none

/-- Only what can be assigned to can be counted up or down. -/
def checkUpdated (e : Node) : Parser Unit :=
  reportIf (!e.isAssignable) .notAssignable e.span.lo

/-- Read an operand with `++` or `--` in front of it. -/
def updateBefore (inner : Inner) (op : UpdateOperator) : Parser Node := do
  let lo ← position
  advance
  let operand ← inner .unary
  checkUpdated operand
  return .mk (.update ⟨lo, operand.span.hi⟩ op true) [operand]

/-- Read an operand with an operator in front of it. -/
def prefixed (inner : Inner) (op : UnaryOperator) : Parser Node := do
  let lo ← position
  advance
  let operand ← orReport (inner .unary)
  match op, operand with
  | .delete, .mk (.reference o _) _ => report .deleteOfName o.span.lo
  | _, _ => pure ()
  return .mk (.unary ⟨lo, operand.span.hi⟩ op) [operand]

/-- Read an expression with the members and calls after it, and `++` or `--` on the same line. -/
def updateAfter (inner : Inner) : Parser Node := do
  let e ← access inner
  if (← isWholeArrow e) || (← isAfterNewline) then return e
  else
    match ← updateOperator? with
    | some op =>
      checkUpdated e
      advance
      return .mk (.update (← spanFrom e.span.lo) op false) [e]
    | none => return e

/-- Read an operand. -/
def unary (inner : Inner) : Parser Node := do
  match ← updateOperator?, ← prefixOperator? with
  | some op, _ => updateBefore inner op
  | none, some op => prefixed inner op
  | none, none => if ← isWord "await" then awaitExpression inner else updateAfter inner

/-! ### Binary operators -/

/-- The binary operator at hand. -/
def binaryOperator? : Parser (Option BinaryOperator) := do
  match ← token with
  | .symbol s => return BinaryOperator.ofText? s
  | .word "in" false => return if (← read).allowsIn then some .within else none
  | .word "instanceof" false => return some .instanceOf
  | _ => return none

/-- Is an operand of `??` an expression with an operator that may not be mixed with it? -/
def isMixed (op : BinaryOperator) (e : Node) : Bool :=
  match e.head with
  | .binary _ other => op == .coalesce && (other == .or || other == .and)
  | _ => false

/-- Combine two operands. -/
def combine (left : Node) (op : BinaryOperator) (right : Node) : Parser Node := do
  let s := left.span.through right.span
  reportIf (isMixed op left || isMixed op right) .mixedCoalescing s.lo
  return .mk (.binary s op) [left, right]

/-- The operands and operators that wait for a right operand, the last first. -/
abbrev Pending := List (Node × BinaryOperator)

/-- Combine an operand with those that wait for it, as long as their operators come before the next
one. -/
def combineAll (comesFirst : BinaryOperator → Bool) : Pending → Node → Parser (Node × Pending)
  | [], right => return (right, [])
  | (left, op) :: pending, right => do
    if comesFirst op then
      let e ← combine left op right
      combineAll comesFirst pending e
    else return (right, (left, op) :: pending)

/-- Powers of expressions with an operator in front have to be put into parentheses. -/
def checkPower (op : BinaryOperator) (left : Node) : Parser Unit := do
  match op, left with
  | .power, .mk (.unary s _) _ => fail .powerOfUnary s.lo
  | .power, .plain .await o _ => fail .powerOfUnary o.span.lo
  | _, _ => pure ()

/-- Read operators and operands after an operand, in no more than a number of steps. -/
def binaryRest (inner : Inner) : Nat → Pending → Node → Parser Node
  | 0, pending, right => return (← combineAll (fun _ => true) pending right).1
  | n + 1, pending, right => do
    match ← binaryOperator? with
    | none => return (← combineAll (fun _ => true) pending right).1
    | some op =>
      checkPower op right
      let (left, pending) ← combineAll (·.precedes op) pending right
      advance
      let operand ← unary inner
      binaryRest inner n ((left, op) :: pending) operand

/-- Read the first operand.  If it is missing in front of an operator, that is reported. -/
def firstOperand (inner : Inner) : Parser Node :=
  try unary inner
  catch f => do
    let _ ← someToken
    match ← binaryOperator? with
    | some _ =>
      report .expressionExpected (← span).lo
      return .absent
    | none => throw f

/-- Is a symbol at hand that is a binary operator? -/
def atOperatorSymbol : Parser Bool := do
  match ← token with
  | .symbol s => return (BinaryOperator.ofText? s).isSome
  | _ => return false

/-- Read operators after an expression that should have ended, which is reported. -/
def strayOperators (inner : Inner) (e : Node) : Parser Node := do
  report .semicolonExpected (← span).lo
  binaryRest inner (← get).limit [] e

/-- Are parentheses at hand, or `async` with parentheses after it? -/
def atParentheses : Parser Bool := do
  if ← isWord "async" then return (← peek).token == .symbol "(" else isSymbol "("

/-- Is an expression an arrow function with a block? -/
def hasBlock : Node → Bool
  | .mk (.arrow _ _) [_, .plain .block _ _] => true
  | _ => false

/-- Read an expression of binary operators.  An arrow function is none of their operands; after the
block of one with parentheses they are read all the same. -/
def binary (inner : Inner) : Parser Node := do
  let hasParentheses ← atParentheses
  let first ← firstOperand inner
  if !(← isWholeArrow first) then binaryRest inner (← get).limit [] first
  else if hasParentheses && hasBlock first && (← atOperatorSymbol) then
    let e ← strayOperators inner first
    unless ← atStatementEnd do report .semicolonExpected (← span).lo
    return e
  else return first

/-! ### Conditions, assignments, sequences -/

/-- Read a condition, or an expression without one. -/
def conditional (inner : Inner) : Parser Node := do
  let lo ← position
  let test ← binary inner
  if ← isWholeArrow test then return test
  else if ← eat "?" then
    let consequent ← allowingIn (inner .assignment)
    expect ":"
    let alternate ← inner .assignment
    finish .conditional lo [test, consequent, alternate]
  else return test

def assignmentOperator? : Parser (Option AssignmentOperator) := do
  match ← token with
  | .symbol s => return AssignmentOperator.ofText? s
  | _ => return none

/-- An expression that is no side of an assignment, whatever follows. -/
def isNoTarget (e : Node) : Bool :=
  match e.head with
  | .plain .conditional _ | .binary _ _ | .unary _ _ | .update _ _ _ => true
  | _ => false

/-- Does an expression start with this token? -/
def startsExpression : Token → Bool
  | .word name _ => name != "in" && name != "instanceof"
  | .symbol s =>
    ["(", "[", "\x7b", "\x60", "+", "-", "!", "~", "++", "--", "/", "/=", "#"].contains s
  | .finish | .invalid _ => false
  | _ => true

/-- Read `yield` and what it hands out, if anything. -/
def yieldExpression (inner : Inner) : Parser Node := do
  let lo ← position
  expectWord "yield"
  let hasArgument := !(← atStatementEnd) && ((← isSymbol "*") || startsExpression (← token))
  if hasArgument then
    let delegate ← eat "*"
    let e ← inner .assignment
    return .mk (.yield (← spanFrom lo) delegate) [e]
  else return .mk (.yield (← spanFrom lo) false) [.absent]

/-- Read an expression without commas. -/
def assignment (inner : Inner) : Parser Node := do
  let _ ← someToken
  if (← read).isGenerator && (← isWord "yield") then yieldExpression inner
  else
    let lo ← position
    withReader (fun s => { s with arrowStart := lo }) do
      let left ← conditional inner
      if (← isWholeArrow left) || isNoTarget left then return left
      else
        match ← assignmentOperator? with
        | none => return left
        | some op =>
          let target ← toTarget op left
          advance
          let value ← inner .assignment
          return .mk (.assignment (← spanFrom lo) op) [target, value]

/-- Read an expression. -/
def expression (inner : Inner) : Parser Node := do
  let first ← assignment inner
  if ← isSymbol "," then
    let others ← collect (do return !(← eat ",")) (assignment inner)
    finish .sequenceExpression first.span.lo [.list (first :: others)]
  else return first

end Parser

end HostProps
