import HostProps.Parser.Operator

/-!
# Statements

Declarations, control flow, and expressions that end like statements.
-/

namespace HostProps

namespace Parser

/-- Read something, and leave it at what could be read. -/
def attempt (p : Parser Node) : Parser Unit := do
  try let _ ← p
  catch _ => pure ()

/-! ### Declarations of variables -/

/-- The keyword that declares variables, if it is at hand.  `let` is one only in front of what it
can declare. -/
def variableKind? : Parser (Option VariableKind) := do
  match ← token with
  | .word "var" false => return some .var
  | .word "const" false => return some .const
  | .word "let" false =>
    match (← peek).token with
    | .word name isPlain => return if isPlain || !isKeyword name then some .let else none
    | .symbol s => return if s == "[" || s == "\x7b" then some .let else none
    | _ => return none
  | _ => return none

/-- Is the variable of a loop over elements or properties at its end? -/
def atLoopWord : Parser Bool := do
  return (← isWord "of") || (← isWord "in")

/-- Read a variable or a pattern, and its value.  Constants and patterns must have one, unless a
loop gives it to them. -/
def declarator (inner : Inner) (inLoop : Bool) (kind : VariableKind) : Parser Node := do
  let lo ← position
  let pattern ← inner .binding
  if inLoop && (← atLoopWord) then finish .declarator lo [pattern, .absent]
  else if ← eat "=" then
    let value ← inner .assignment
    finish .declarator lo [pattern, ← withoutDefaults value]
  else
    if kind == .const then report .constantWithoutValue lo
    else if pattern.binding?.isNone then fail .patternWithoutValue lo
    finish .declarator lo [pattern, .absent]

/-- Read the declarators after the keyword that ended at a position. -/
def declarators (inner : Inner) (inLoop : Bool) (kind : VariableKind) (keyword : Span) :
    Nat → List Node → Parser (List Node)
  | 0, acc => return acc.reverse
  | n + 1, acc => do
    if (← isSymbol ";") || (← isFinish) then
      let last := (← get).previous
      report .trailingComma (if last == keyword then last.hi else last.lo)
      return acc.reverse
    else
      let d ← declarator inner inLoop kind
      if ← eat "," then declarators inner inLoop kind keyword n (d :: acc)
      else return (d :: acc).reverse

/-- Go on to the end of a statement, past what should not be there. -/
def skipStatement : Nat → Parser Unit
  | 0 => pure ()
  | n + 1 => do
    if ← eatSemicolon then pure ()
    else
      advance
      match ← token with
      | .invalid _ => pure ()
      | _ => skipStatement n

/-- End a declaration of variables.  If something else follows, go past it. -/
def endDeclaration (inner : Inner) : Parser Unit := do
  unless ← eatSemicolon do
    report .semicolonExpected (← span).lo
    attempt (expression inner)
    skipStatement (← get).limit

/-- Read a declaration of variables. -/
def variableDeclaration (inner : Inner) (inLoop : Bool) (kind : VariableKind) : Parser Node := do
  let lo ← position
  let keyword ← span
  advance
  let limit := (← get).limit
  let allows := kind != .var || !inLoop
  let ds ← withReader (fun s => { s with allowsIn := allows || s.allowsIn }) <|
    declarators inner inLoop kind keyword limit []
  unless inLoop do endDeclaration inner
  return .mk (.variableDeclaration (.written (← spanFrom lo)) kind) [.list ds]

/-! ### Loops -/

/-- Read the body of a loop. -/
def loopBody (inner : Inner) : Parser Node := withReader Scope.loop (inner .statement)

/-- Read an expression in parentheses. -/
def condition (inner : Inner) : Parser Node := do
  expect "("
  let e ← allowingIn (expression inner)
  expect ")"
  return e

def whileStatement (inner : Inner) : Parser Node := do
  let lo ← position
  expectWord "while"
  let test ← condition inner
  let body ← loopBody inner
  finish .whileStatement lo [test, body]

def doWhile (inner : Inner) : Parser Node := do
  let lo ← position
  expectWord "do"
  let body ← loopBody inner
  expectWord "while"
  let test ← condition inner
  let _ ← eatSemicolon
  finish .doWhile lo [test, body]

/-- The head of a `for`. -/
inductive LoopHead where
  | counting (init test update : Node)
  | overKeys (left right : Node)
  | overElements (left right : Node)

/-- Read the head of a loop over keys or elements after its left side. -/
def eachHead (inner : Inner) (left : Node) : Parser LoopHead := do
  if ← eatWord "of" then return .overElements left (← allowingIn (inner .assignment))
  else
    expectWord "in"
    return .overKeys left (← allowingIn (expression inner))

/-- Read the condition and the update of a loop. -/
def countingHead (inner : Inner) (init : Node) : Parser LoopHead := do
  let hasTest := !(← eat ";")
  let test ← optionalPart hasTest do
    let e ← allowingIn (expression inner)
    expect ";"
    return e
  let hasUpdate := !(← isSymbol ")")
  let update ← optionalPart hasUpdate (allowingIn (expression inner))
  return .counting init test update

/-- The variables of a loop over keys or elements: one, without a value. -/
def checkLoopVariables (declaration : Node) : Parser Unit := do
  match declaration.declarators? with
  | some [.plain .declarator _ [pattern, init]] =>
    reportIf (!init.isAbsent) .loopVariableWithValue pattern.span.lo
  | some (_ :: second :: _) => report .severalLoopVariables second.span.lo
  | _ => pure ()

/-- Read the head of a `for` that declares variables. -/
def declaringHead (inner : Inner) (kind : VariableKind) : Parser LoopHead := do
  let declaration ← variableDeclaration inner true kind
  if ← atLoopWord then
    checkLoopVariables declaration
    eachHead inner declaration
  else
    expect ";"
    countingHead inner declaration

/-- Read the head of a `for`. -/
def loopHead (inner : Inner) : Parser LoopHead :=
  withReader (fun s => { s with allowsIn := false }) do
    match ← variableKind? with
    | some kind => declaringHead inner kind
    | none =>
      if ← eat ";" then countingHead inner .absent
      else
        let init ← expression inner
        if ← atLoopWord then
          let target ← toLoopTarget init
          eachHead inner target
        else
          expect ";"
          countingHead inner (← withoutDefaults init)

def forStatement (inner : Inner) : Parser Node := do
  let lo ← position
  expectWord "for"
  let awaitLo ← position
  let isAwait ← eatWord "await"
  expect "("
  let head ← loopHead inner
  expect ")"
  let body ← loopBody inner
  match head with
  | .overElements left right =>
    return .mk (.forOf (← spanFrom lo) isAwait) [left, right, body]
  | .counting init test update =>
    if isAwait then fail .forAwaitNotOf awaitLo
    finish .forStatement lo [init, test, update, body]
  | .overKeys left right =>
    if isAwait then fail .forAwaitNotOf awaitLo
    finish .forIn lo [left, right, body]

/-! ### Jumps -/

/-- Read a `break` or `continue`, which must be in something that it can end or repeat. -/
def jump (isBreak : Bool) : Parser Node := do
  let lo ← position
  advance
  let hasLabel := !(← eatSemicolon)
  let label ← optionalPart hasLabel do
    let l ← reference
    expectSemicolon
    return l
  let scope ← read
  let isUnknown := label.reference?.any (!scope.labels.contains ·)
  if isBreak then
    if isUnknown then report .breakLabelUnknown lo
    else reportIf (!scope.allowsBreak) .breakOutside lo
    finish .breakStatement lo [label]
  else
    if !scope.allowsContinue then report .continueOutside lo
    else reportIf isUnknown .continueLabelUnknown lo
    finish .continueStatement lo [label]

def returnStatement (inner : Inner) : Parser Node := do
  let lo ← position
  expectWord "return"
  let hasArgument := !(← atStatementEnd)
  let e ← optionalPart hasArgument (allowingIn (expression inner))
  expectSemicolon
  finish .returnStatement lo [e]

def throwStatement (inner : Inner) : Parser Node := do
  let lo ← position
  expectWord "throw"
  if ← isAfterNewline then failHere .newlineAfterThrow
  let e ← allowingIn (expression inner)
  expectSemicolon
  finish .throwStatement lo [e]

/-! ### Branches -/

def ifStatement (inner : Inner) : Parser Node := do
  let lo ← position
  expectWord "if"
  let test ← condition inner
  let consequent ← inner .statement
  let hasAlternate ← eatWord "else"
  let alternate ← optionalPart hasAlternate (inner .statement)
  finish .ifStatement lo [test, consequent, alternate]

/-- Is the end of a case at hand? -/
def atCaseEnd : Parser Bool := do
  return (← isWord "case") || (← isWord "default") || (← atClose "\x7d")

/-- Read a case of a `switch`. -/
def switchCase (inner : Inner) : Parser Node := do
  let lo ← position
  let hasTest ← isWord "case"
  advance
  let test ← optionalPart hasTest (allowingIn (expression inner))
  expect ":"
  let statements ← collect atCaseEnd (inner .listItem)
  finish .switchCase lo [test, .list statements]

def switchStatement (inner : Inner) : Parser Node := do
  let lo ← position
  expectWord "switch"
  let discriminant ← condition inner
  expect "\x7b"
  let cases ← withReader (fun s => { s with allowsBreak := true }) <|
    collect (do return !((← isWord "case") || (← isWord "default"))) (switchCase inner)
  let isDefault : Node → Bool
    | .plain .switchCase _ [test, _] => test.isAbsent
    | _ => false
  match (cases.filter isDefault).drop 1 with
  | second :: _ => report .severalDefaults second.span.lo
  | [] => pure ()
  expect "\x7d"
  finish .switchStatement lo [discriminant, .list cases]

/-- Read what handles exceptions. -/
def catchClause (inner : Inner) : Parser Node := do
  let lo ← position
  expectWord "catch"
  let hasParameter ← eat "("
  let parameter ← optionalPart hasParameter do
    let pattern ← inner .binding
    expect ")"
    return pattern
  let body ← block inner
  finish .catchClause lo [parameter, body]

def tryStatement (inner : Inner) : Parser Node := do
  let lo ← position
  expectWord "try"
  let body ← block inner
  let afterBlock ← position
  let hasHandler ← isWord "catch"
  let handler ← optionalPart hasHandler (catchClause inner)
  let hasFinalizer ← eatWord "finally"
  let finalizer ← optionalPart hasFinalizer (block inner)
  reportIf (!hasHandler && !hasFinalizer) .semicolonExpected afterBlock
  finish .tryStatement lo [body, handler, finalizer]

/-- Read a `catch` or a `finally` without a `try`, and what follows it as far as it can be read. -/
def strayHandler (inner : Inner) : Parser Node := do
  let s ← span
  report .semicolonExpected s.lo
  if ← isWord "catch" then attempt (catchClause inner)
  if ← eatWord "finally" then attempt (block inner)
  return .plain .expressionStatement (.written s) [.absent]

def withStatement (inner : Inner) : Parser Node := do
  let lo ← position
  report .withNotAllowed lo
  expectWord "with"
  let target ← condition inner
  let body ← inner .statement
  finish .withStatement lo [target, body]

/-! ### Expressions as statements -/

/-- Read the statement after a label. -/
def labeled (inner : Inner) (s : Span) (name : String) : Parser Node := do
  reportIf ((← read).labels.contains name) (.duplicateLabel name) s.lo
  if ← isWord "function" then report .labelledFunction (← span).lo
  let body ← withReader (fun s => { s with allowsBreak := true, labels := name :: s.labels })
    (if ← isWord "function" then function inner .declaration true else inner .statement)
  finish .labeled s.lo [.mk (.reference (.written s) name) [], body]

/-- Read an expression that is a statement, or a label and what it labels. -/
def expressionStatement (inner : Inner) : Parser Node := do
  let lo ← position
  let e ← allowingIn (expression inner)
  match e, ← isSymbol ":" with
  | .mk (.reference o name) _, true =>
    advance
    labeled inner o.span name
  | _, _ =>
    let e ← withoutDefaults e
    if ← eatSemicolon then finish .expressionStatement lo [e]
    else if ← atOperatorSymbol then
      let e ← strayOperators inner e
      finish .expressionStatement lo [e]
    else failHere .statementEndExpected

/-- Read a statement of a module or a block that waits for something.  What follows the operand and
its operators starts another statement, even on the same line. -/
def awaitStatement (inner : Inner) : Parser Node := do
  let lo ← position
  let first ← awaitExpression inner
  let e ← allowingIn (binaryRest inner (← get).limit [] first)
  let _ ← eatSemicolon
  finish .expressionStatement lo [e]

/-- Read an expression that starts with `import` as a statement. -/
def importStatement (inner : Inner) : Parser Node := do
  let lo ← position
  let e ← allowingIn (expression inner)
  let _ ← eatSemicolon
  finish .expressionStatement lo [e]

/-- Is `import` the start of an expression here? -/
def atImportExpression : Parser Bool := do
  if ← isWord "import" then
    match (← peek).token with
    | .symbol s => return s == "(" || s == "."
    | _ => return false
  else return false

/-! ### All -/

/-- Read a function or a class, where that is allowed. -/
def definition (inner : Inner) (isAllowed isClass : Bool) : Parser Node := do
  reportIf (!isAllowed) .declarationNotAllowed (← span).lo
  if isClass then classDefinition inner true true else function inner .declaration true

/-- Read a statement that starts with a word. -/
def wordStatement (inner : Inner) (allowsDeclaration : Bool) (word : String) : Parser Node := do
  match word with
  | "break" => jump true
  | "continue" => jump false
  | "debugger" =>
    let lo ← position
    advance
    expectSemicolon
    finish .debugger lo []
  | "do" => doWhile inner
  | "for" => forStatement inner
  | "function" => definition inner allowsDeclaration false
  | "class" => definition inner allowsDeclaration true
  | "if" => ifStatement inner
  | "return" => returnStatement inner
  | "switch" => switchStatement inner
  | "throw" => throwStatement inner
  | "try" => tryStatement inner
  | "catch" | "finally" => strayHandler inner
  | "while" => whileStatement inner
  | "with" => withStatement inner
  | _ =>
    match ← variableKind? with
    | some kind =>
      if allowsDeclaration || kind == .var then variableDeclaration inner false kind
      else expressionStatement inner
    | none =>
      if ← atAsyncFunction then function inner .declaration true
      else expressionStatement inner

/-- Read a statement, or a declaration if they are allowed. -/
def statement (inner : Inner) (allowsDeclaration : Bool) : Parser Node := do
  match ← someToken with
  | .symbol "\x7b" => block inner
  | .symbol ";" => single fun s => .plain .empty (.written s) []
  | .word word false => wordStatement inner allowsDeclaration word
  | _ => expressionStatement inner

/-- Read a statement inside of another, or of a function. -/
def nestedStatement (inner : Inner) (allowsDeclaration : Bool) : Parser Node := do
  if ← atImportExpression then importStatement inner
  else if (← isWord "import") || (← isWord "export") then failHere .importInScript
  else if allowsDeclaration && (← isWord "await") then awaitStatement inner
  else statement inner allowsDeclaration

end Parser

end HostProps
