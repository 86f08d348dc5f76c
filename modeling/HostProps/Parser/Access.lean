import HostProps.Parser.Element

/-!
# Members and calls

What can follow an expression without operators: members, calls, and templates that it is the tag
of.  From a `?.` on, these form a chain.
-/

namespace HostProps

namespace Node

/-- Is an expression a chain, or the end of one? -/
def isChain : Node → Bool
  | mk (.optionalChain _ _) _ => true
  | _ => false

/-- Is an expression an arrow function that starts at a position? -/
def isArrowAt (lo : Nat) : Node → Bool
  | mk (.arrow o _) _ => o.span.lo == lo
  | _ => false

end Node

namespace Parser

/-- Is an expression an arrow function, which nothing can follow? -/
def isWholeArrow (e : Node) : Parser Bool := return e.isArrowAt (← read).arrowStart

/-- The access to a member of an expression; it is part of a chain after one. -/
def memberOf (target property : Node) (isOptional : Bool) : Parser Node := do
  let lo := target.span.lo
  match target with
  | .plain .super _ _ => finish .superMember lo [target, property]
  | _ =>
    let access ← finish .member lo [target, property]
    if isOptional || target.isChain then
      return .mk (.optionalChain (← spanFrom lo) isOptional) [access]
    else return access

/-- The call of an expression; it is part of a chain after one. -/
def callOf (callee : Node) (args : List Node) (isOptional : Bool) : Parser Node := do
  let lo := callee.span.lo
  if isOptional || callee.isChain then
    let call ← finish .optionalCall lo [callee, .list args]
    return .mk (.optionalChain (← spanFrom lo) isOptional) [call]
  else finish .call lo [callee, .list args]

/-- Read a member's name, which may be private. -/
def memberName : Parser Node := do
  if ← isSymbol "#" then privateName else propertyName

/-- Read one access, call or template after an expression, if there is one. -/
def subscript? (inner : Inner) (allowsCall : Bool) (e : Node) : Parser (Option Node) := do
  match ← token with
  | .symbol "." =>
    advance
    return some (← memberOf e (← memberName) false)
  | .symbol "?" =>
    unless (← peek).token == .symbol "." do return none
    advance
    advance
    match ← token with
    | .symbol "(" => return some (← callOf e (← arguments inner) true)
    | .symbol "[" => return some (← memberOf e (← computed inner .expression) true)
    | .symbol "\x60" => failHere .templateInChain
    | _ => return some (← memberOf e (← memberName) true)
  | .symbol "[" => return some (← memberOf e (← computed inner .expression) false)
  | .symbol "(" =>
    if allowsCall then return some (← callOf e (← arguments inner) false) else return none
  | .symbol "\x60" =>
    if e.isChain then report .templateInChain (← position)
    let text ← template inner true
    return some (← finish .taggedTemplate e.span.lo [e, text])
  | _ => return none

/-- Read all that follows an expression, in no more than a number of steps. -/
def subscripts (inner : Inner) (allowsCall : Bool) : Nat → Node → Parser Node
  | 0, e => return e
  | n + 1, e => do
    match ← subscript? inner allowsCall e with
    | some e => subscripts inner allowsCall n e
    | none => return e

/-- Read the function that `import` is in a call of it; `phase` says how far the other module is
loaded. -/
def importKeyword (lo : Nat) (phase : String) : Parser Node := do
  let s ← spanFrom lo
  unless ← isSymbol "(" do failExpected "("
  return .mk (.importKeyword s phase) []

/-- Read `import` in an expression: a call of it, or what is known about the module. -/
def importExpression : Parser Node := do
  let lo ← position
  expectWord "import"
  if ← eat "." then
    let (word, _) ← anyWord
    match word with
    | "meta" => return .mk (.metaProperty (← spanFrom lo) "import.meta") []
    | "defer" | "source" => importKeyword lo word
    | _ => failUnexpected "meta"
  else importKeyword lo "evaluation"

/-- Read `new`, its function, and its arguments if there are some. -/
def newExpression (inner : Inner) : Parser Node := do
  let lo ← position
  expectWord "new"
  if ← eat "." then
    expectWord "target"
    return .mk (.metaProperty (← spanFrom lo) "new.target") []
  else
    let callee ← inner .constructor
    if callee.isChain then fail .chainAfterNew callee.span.lo
    if ← isSymbol "(" then
      let args ← arguments inner
      finish .new lo [callee, .list args]
    else finish .new lo [callee, .absent]

/-- Read what members and calls can follow. -/
def head (inner : Inner) : Parser Node := do
  match ← token with
  | .word "new" false => newExpression inner
  | .word "import" false => importExpression
  | .word "super" false => single fun s => .plain .super (.written s) []
  | _ => primary inner

/-- Read an expression with the members after it, and with the calls if they are allowed. -/
def members (inner : Inner) (allowsCall : Bool) : Parser Node := do
  let e ← head inner
  if ← isWholeArrow e then return e
  else subscripts inner allowsCall (← get).limit e

/-- Read an expression with the members and calls after it, or an element, which nothing can
follow. -/
def access (inner : Inner) : Parser Node := do
  let _ ← someToken
  if ← atMark '<' then elementExpression inner else members inner true

end Parser

end HostProps
