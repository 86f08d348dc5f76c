import HostProps.Parser.Function

/-!
# Expressions without operators

Variables, literals, arrays, objects, functions, and expressions in parentheses.  A variable or
parentheses at the start of an expression may turn out to be the parameters of an arrow function.
-/

namespace HostProps

namespace Parser

/-! ### Lists of expressions -/

/-- Read `...` if it is at hand, and yield its span. -/
def dots? : Parser (Option Span) := do
  let lo ← position
  if ← eat "..." then return some (← spanFrom lo) else return none

/-- Read an argument or an element: an expression that may be spread. -/
def argument (inner : Inner) : Parser Node := do
  let dots ← dots?
  return .mk (.argument dots) [← allowingIn (inner .assignment)]

/-- Read arguments, with their parentheses. -/
def arguments (inner : Inner) : Parser (List Node) := do
  expect "("
  if ← atClose ")" then
    expect ")"
    return []
  else
    let first ← argument inner
    let others ← collect (atClose ")") do
      expect ","
      if ← isSymbol ")" then return none else return some (← argument inner)
    expect ")"
    return first :: others.filterMap id

/-- Read an array. -/
def array (inner : Inner) : Parser Node := do
  let lo ← position
  expect "["
  let items ← collect (atClose "]") do
    if ← eat "," then return .absent
    else
      let x ← argument inner
      unless ← isSymbol "]" do expect ","
      return x
  expect "]"
  finish .array lo [.list items]

/-! ### Objects -/

/-- Read the rest of a method whose key was read. -/
def method (inner : Inner) (lo : Nat) (isAsync isGenerator : Bool) (key : Node) : Parser Node := do
  let rest ← parametersAndBody inner isAsync isGenerator
  functionNode .method lo isAsync isGenerator [key] rest

/-- Read a property that starts with a name and goes on like no other: an accessor, an asynchronous
method, or nothing known. -/
def modifiedProperty (inner : Inner) (lo : Nat) (modifier : String) : Parser Node := do
  if modifier == "get" then
    let (key, body) ← getter inner
    finish .getter lo [key, body]
  else if modifier == "set" then
    let (key, pattern, body) ← setter inner
    finish .setter lo [key, pattern, body]
  else if modifier == "async" then
    let isGenerator ← eat "*"
    let key ← propertyKey inner
    method inner lo true isGenerator key
  else failUnexpected "... , *,  (, [, :, , ?, = or an identifier"

/-- Read a property that consists of a name, and of a default if the object is a pattern. -/
def shorthand (inner : Inner) (s : Span) (name : String) : Parser Node := do
  let named : Node := .mk (.reference (.written s) name) []
  if ← eat "=" then
    let value ← allowingIn (inner .assignment)
    finish .assignmentProperty s.lo [named, value]
  else return named

/-- Read a property of an object. -/
def property (inner : Inner) : Parser Node := do
  let lo ← position
  match ← dots? with
  | some dots => return .mk (.spread dots) [← allowingIn (inner .assignment)]
  | none =>
    if ← eat "*" then
      let key ← propertyKey inner
      method inner lo false true key
    else
      let key ← propertyKey inner
      if ← eat ":" then
        return .plain .keyValue .generated [key, ← allowingIn (inner .assignment)]
      else if ← isSymbol "(" then method inner lo false false key
      else
        match key, ← token with
        | .mk (.name s name) _, .symbol "=" | .mk (.name s name) _, .symbol ","
        | .mk (.name s name) _, .symbol "\x7d" => shorthand inner s name
        | .mk (.name _ name) _, _ => modifiedProperty inner lo name
        | _, _ => failUnexpected "identifier"

/-- Read an object. -/
def object (inner : Inner) : Parser Node := do
  let lo ← position
  expect "\x7b"
  let items ← commaList (isSymbol "\x7d") "\x7d" (property inner)
  finish .object lo [.list items]

/-! ### Templates -/

/-- Read the text of a template that starts after the token at hand.  Yields the text, and whether
the template ends with it.  A text without an end takes all that is left. -/
def templateElement (isTagged : Bool) (lo : Nat) : Parser (Node × Bool) := do
  let r ← get
  match TemplateText.read r.limit ⟨.ok [], r.after⟩ with
  | none =>
    let (_, textEnd) := r.after.span fun _ => true
    goTo ⟨r.after.position, textEnd.position⟩ textEnd
    throw ⟨.unterminatedTemplate, lo⟩
  | some t =>
    let hi := t.cursor.position
    let isLast := t.cursor.startsWith "\x60"
    let width := if isLast then 1 else 2
    let cooked ← match t.cooked with
      | .ok cs => pure (some (String.ofList cs.reverse))
      | .error f => if isTagged then pure none else throw f
    goTo ⟨hi, hi + width⟩ (t.cursor.skip width)
    let s : Span := ⟨r.after.position, hi⟩
    return (.mk (.templateElement s isLast cooked (r.after.textTo t.cursor)) [], isLast)

/-- Read the rest of a template: expressions, and the texts after them. -/
def templateRest (inner : Inner) (isTagged : Bool) (lo : Nat) :
    Nat → List Node → List Node → Parser (List Node × List Node)
  | 0, es, quasis => return (es.reverse, quasis.reverse)
  | n + 1, es, quasis => do
    let (quasi, isLast) ← templateElement isTagged lo
    if isLast then return (es.reverse, (quasi :: quasis).reverse)
    else
      let e ← allowingIn (inner .expression)
      unless ← isSymbol "\x7d" do failExpected "\x7d"
      templateRest inner isTagged lo n (e :: es) (quasi :: quasis)

/-- Read a template. -/
def template (inner : Inner) (isTagged : Bool) : Parser Node := do
  let lo ← position
  let (es, quasis) ← templateRest inner isTagged lo (← get).limit [] []
  finish .template lo [.list es, .list quasis]

/-! ### Regular expressions -/

/-- The flags of regular expressions. -/
def regExpFlags : List Char := ['d', 'g', 'i', 'm', 's', 'u', 'v', 'y']

/-- Read a regular expression, the first slash of which is at hand. -/
def regExp : Parser Node := do
  let r ← get
  match RegExpLiteral.read r.before with
  | .error f =>
    modify fun r => { r with current := { r.current with token := .invalid f } }
    throw f
  | .ok e =>
    let s : Span := ⟨r.before.position, e.cursor.position⟩
    goTo s e.cursor
    reportIf (!e.flags.toList.all regExpFlags.contains) .regExpFlags s.lo
    return .mk (.regExp s e.pattern e.flags) []

/-! ### Parentheses and arrow functions -/

/-- Can an arrow function start at a position? -/
def canBeArrow (lo : Nat) : Parser Bool := return (← read).arrowStart == lo

/-- What is read in parentheses: arguments, and where a comma stands after the last. -/
structure Parenthesized where
  items : List Node
  trailing? : Option Nat

/-- Read what is in parentheses. -/
def parenthesized (inner : Inner) : Parser Parenthesized := do
  expect "("
  let items ← commaList (atClose ")") ")" (do
    let x ← argument inner
    return (x, ← position))
  -- the comma after the last item, if the item is not followed by the closing parenthesis
  let close := (← get).previous.lo
  let trailing? := (items.getLast?.map (·.2)).bind fun lo => if lo = close then none else some lo
  return ⟨items.map (·.1), trailing?⟩

/-- The items in parentheses as parameters. -/
def asParameters (p : Parenthesized) : Parser (List Node) := do
  (Node.restFaults p.items).forM fun f => report f.cause f.position
  match p.trailing?, p.items.getLast? with
  | some comma, some last => reportIf last.isSpread .commaAfterRest comma
  | _, _ => pure ()
  p.items.mapM (toPattern true)

/-- Report the properties with defaults, which only patterns have, of an item that is an object. -/
def withoutPattern (item : Node) : Parser Unit := do
  match item with
  | .mk (.argument none) [.plain .object _ [properties]] =>
    properties.items.forM fun
      | .plain .assignmentProperty o _ => report .nameWithValueInObject o.span.lo
      | _ => pure ()
  | _ => pure ()

/-- The items in parentheses as an expression. -/
def asExpression (lo : Nat) (p : Parenthesized) : Parser Node := do
  p.items.forM withoutPattern
  let es ← p.items.mapM fun
    | .mk (.argument none) [e] => return e
    | n => fail .spreadInParentheses n.span.lo
  match es with
  | [] => fail .emptyParentheses lo
  | [e] => finish .parenthesis lo [e]
  | es =>
    let within : Node := .plain .sequenceExpression (.written (Node.spanOfParts es)) [.list es]
    finish .parenthesis lo [within]

/-- Read parentheses: the parameters of an arrow function, or an expression. -/
def parentheses (inner : Inner) : Parser Node := do
  let lo ← position
  let p ← parenthesized inner
  if ← isSymbol "=>" then
    if ← isAfterNewline then fail .newlineBeforeArrow lo
    unless ← canBeArrow lo do fail .arrowNotAllowed lo
    arrow inner lo false (← asParameters p)
  else asExpression lo p

/-- Read `async` as a name, and what follows if it is an asynchronous arrow function.  Parentheses
after it may hold parameters, or the arguments of a call of a function of that name. -/
def asyncName (inner : Inner) : Parser Node := do
  let lo ← position
  let name ← reference
  if (← isAfterNewline) || !(← canBeArrow lo) then return name
  else
    match ← token with
    | .symbol "(" =>
      let p ← parenthesized inner
      if (← isSymbol "=>") && !(← isAfterNewline) then arrow inner lo true (← asParameters p)
      else
        p.items.forM withoutPattern
        finish .call lo [name, .list p.items]
    | .symbol "=>" => arrow inner lo false [name.asBinding]
    | t =>
      if t.isVariable then
        let parameter ← declaredVariable
        arrow inner lo true [parameter]
      else return name

/-- Read a variable, and the rest of an arrow function if it is its parameter. -/
def name (inner : Inner) : Parser Node := do
  let lo ← position
  let named ← reference
  if (← isSymbol "=>") && !(← isAfterNewline) && (← canBeArrow lo) then
    arrow inner lo false [named.asBinding]
  else return named

/-! ### All -/

/-- Read a node of a single token. -/
def single (make : Span → Node) : Parser Node := do
  let s ← span
  advance
  return make s

/-- Read what starts with a word. -/
def wordExpression (inner : Inner) (word : String) : Parser Node := do
  if ← atAsyncFunction then function inner .expression false
  else
    match word with
    | "this" => single fun s => .plain .this (.written s) []
    | "null" => single fun s => .plain .null (.written s) []
    | "true" => single fun s => .mk (.boolean s true) []
    | "false" => single fun s => .mk (.boolean s false) []
    | "function" => function inner .expression false
    | "class" => classDefinition inner false false
    | "async" => asyncName inner
    | "let" => name inner
    | word => if isReserved word then failHere .expressionExpected else name inner

/-- Read an expression without operators. -/
def primary (inner : Inner) : Parser Node := do
  let t ← token
  let s ← span
  match literal? s t, t with
  | some n, _ =>
    advance
    return n
  | none, .word word isPlain => if isPlain then name inner else wordExpression inner word
  | none, .symbol "(" => parentheses inner
  | none, .symbol "[" => array inner
  | none, .symbol "\x7b" => object inner
  | none, .symbol "\x60" => template inner false
  | none, .symbol "/" => regExp
  | none, .symbol "/=" => regExp
  | none, .symbol "#" =>
    let n ← privateName
    unless ← isWord "in" do failHere .expressionExpected
    return n
  | none, _ => failHere .expressionExpected

end Parser

end HostProps
