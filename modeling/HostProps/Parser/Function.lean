import HostProps.Parser.Pattern

/-!
# Functions and classes

A function has parameters and a body.  The body is read in a scope of its own: it says whether
`await` and `yield` are operators, and loops and labels around the function do not reach into it.
-/

namespace HostProps

namespace Parser

/-! ### Blocks -/

/-- Read the statements of a block up to its closing brace.  If the text ends before, that is
reported where the last token starts. -/
def statementsToBrace (inner : Inner) : Parser (List Node) := do
  let items ← collect (atClose "\x7d") (inner .listItem)
  if ← isFinish then report (.expected "\x7d" Token.finish.shown) (← span).lo
  else advance
  return items

/-- Read a block. -/
def block (inner : Inner) : Parser Node := do
  let lo ← position
  expect "\x7b"
  let items ← statementsToBrace inner
  finish .block lo [.list items]

/-! ### Functions -/

/-- Read the parameters of a function, with their parentheses. -/
def parameters (inner : Inner) : Parser (List Node) := do
  expect "("
  patternItems (atClose ")") ")" do
    let lo ← position
    let pattern ← if ← isSymbol "..." then restElement inner else bindingElement inner
    finish .parameter lo [.list [], pattern]

/-- Read the body of a function. -/
def functionBody (inner : Inner) (isAsync isGenerator : Bool) : Parser Node :=
  withReader (fun s => { s.body isAsync isGenerator with allowsIn := true }) (block inner)

/-- Read parameters and a body; the parameters are read in the scope of the function. -/
def parametersAndBody (inner : Inner) (isAsync isGenerator : Bool) :
    Parser (List Node × Node) := do
  let ps ← withReader (fun s => { s with isAsync, isGenerator }) (parameters inner)
  return (ps, ← functionBody inner isAsync isGenerator)

/-- The node of a function that starts at a position; `label` is its name or key, if it has a place
for one. -/
def functionNode (role : FunctionRole) (lo : Nat) (isAsync isGenerator : Bool) (label : List Node)
    (rest : List Node × Node) : Parser Node := do
  return .mk (.function role (.written (← spanFrom lo)) isAsync isGenerator)
    (label ++ [.list rest.1, .list [], rest.2])

/-- Is a name at hand, which may be left out unless it is needed? -/
def atName (needsName : Bool) : Parser Bool := return needsName || (← token).isVariable

/-- Read a function that starts with `function` or `async function`.  Its name is left out if it
may be and no variable follows. -/
def function (inner : Inner) (role : FunctionRole) (needsName : Bool) : Parser Node := do
  let lo ← position
  let isAsync ← eatWord "async"
  expectWord "function"
  let isGenerator ← eat "*"
  let name ← optionalPart (← atName needsName) declaredReference
  let rest ← parametersAndBody inner isAsync isGenerator
  functionNode role lo isAsync isGenerator [name] rest

/-- Is an asynchronous function at hand? -/
def atAsyncFunction : Parser Bool := do
  if ← isWord "async" then
    let next ← peek
    return next.token == .word "function" false && !next.isAfterNewline
  else return false

/-- Read the body of an arrow function: a block, or an expression. -/
def arrowBody (inner : Inner) (isAsync : Bool) : Parser Node := do
  withReader (fun s => s.body isAsync false) do
    if ← isSymbol "\x7b" then allowingIn (block inner) else inner .assignment

/-- Read `=>` and what follows. -/
def arrow (inner : Inner) (lo : Nat) (isAsync : Bool) (params : List Node) : Parser Node := do
  expect "=>"
  let body ← arrowBody inner isAsync
  return .mk (.arrow (.written (← spanFrom lo)) isAsync) [.list params, body]

/-! ### Methods -/

/-- Read what a getter is named and does. -/
def getter (inner : Inner) : Parser (Node × Node) := do
  let key ← propertyKey inner
  expect "("
  expect ")"
  return (key, ← functionBody inner false false)

/-- Read what a setter is named, takes and does. -/
def setter (inner : Inner) : Parser (Node × Node × Node) := do
  let key ← propertyKey inner
  let ps ← parameters inner
  let body ← functionBody inner false false
  match ps with
  | [.plain .parameter _ [_, pattern]] => return (key, pattern, body)
  | _ =>
    report .setterParameters key.span.lo
    return (key, .absent, body)

/-! ### Classes -/

/-- Read a key of a class member, which may be private. -/
def memberKey (inner : Inner) : Parser (Node × Bool) := do
  if ← isSymbol "#" then return (← privateName, true)
  else return (← propertyKey inner, false)

/-- Does a word that may be a modifier name a member by itself? -/
def endsKey : Parser Bool := do
  match (← peek).token with
  | .symbol s => return s == "(" || s == "=" || s == ";" || s == "\x7d"
  | .finish => return true
  | _ => return false

/-- Go past a modifier if one is at hand. -/
def eatModifier (word : String) : Parser Bool := do
  if (← isWord word) && !(← endsKey) then
    advance
    return true
  else return false

/-- A function of a class, from its parameters on. -/
def memberFunction (inner : Inner) (lo : Nat) (isAsync isGenerator : Bool) : Parser Node := do
  let rest ← parametersAndBody inner isAsync isGenerator
  functionNode .classMember lo isAsync isGenerator [] rest

/-- Is a member the constructor of its class? -/
def isConstructorKey : Node → Bool
  | .mk (.name _ text) _ => text == "constructor"
  | .mk (.string _ value _) _ => value == "constructor"
  | _ => false

/-- Read a method after its modifiers. -/
def classMethod (inner : Inner) (lo : Nat) (kind : MethodKind) (isStatic isAsync isGenerator : Bool)
    (key : Node × Bool) : Parser Node := do
  let f ← memberFunction inner lo isAsync isGenerator
  return .mk (.classMethod key.2 (.written (← spanFrom lo)) kind isStatic) [key.1, f]

/-- Read a member of a class whose key was read: the constructor, a method or a property. -/
def classMemberAfterKey (inner : Inner) (lo : Nat) (isStatic : Bool) (key : Node × Bool) :
    Parser Node := do
  if ← isSymbol "(" then
    if isConstructorKey key.1 && !isStatic then
      let (ps, body) ← parametersAndBody inner false false
      finish .constructor lo [key.1, .list ps, body]
    else classMethod inner lo .method isStatic false false key
  else
    let hasValue ← eat "="
    let value ← optionalPart hasValue <|
      withReader (fun s => { s.body false false with allowsIn := true }) (inner .assignment)
    unless ← eatSemicolon do report .semicolonExpected (← span).lo
    return .mk (.classProperty key.2 (.written (← spanFrom lo)) isStatic)
      [key.1, value, .list []]

/-- Read a member of a class. -/
def classMember (inner : Inner) : Parser Node := do
  let lo ← position
  if ← eat ";" then finish .empty lo []
  else
    let isStatic ← eatModifier "static"
    if isStatic && (← isSymbol "\x7b") then
      let body ← functionBody inner false false
      finish .staticBlock lo [body]
    else if (← isWord "async") && !(← peek).isAfterNewline && (← eatModifier "async") then
      let isGenerator ← eat "*"
      let key ← memberKey inner
      classMethod inner lo .method isStatic true isGenerator key
    else if ← eat "*" then
      let key ← memberKey inner
      classMethod inner lo .method isStatic false true key
    else if ← eatModifier "get" then
      let key ← memberKey inner
      classMethod inner lo .getter isStatic false false key
    else if ← eatModifier "set" then
      let key ← memberKey inner
      classMethod inner lo .setter isStatic false false key
    else
      let key ← memberKey inner
      classMemberAfterKey inner lo isStatic key

/-- Read the members of a class, with their braces. -/
def classBody (inner : Inner) : Parser (List Node) := do
  expect "\x7b"
  let members ← collect (atClose "\x7d") (classMember inner)
  expect "\x7d"
  let isConstructor : Node → Bool
    | .plain .constructor _ _ => true
    | _ => false
  match (members.filter isConstructor).drop 1 with
  | second :: _ => report .severalConstructors second.span.lo
  | [] => pure ()
  return members

/-- Read a class. -/
def classDefinition (inner : Inner) (isDeclaration needsName : Bool) : Parser Node := do
  let lo ← position
  expectWord "class"
  let name ← optionalPart (← atName needsName) declaredReference
  let isDerived ← eatWord "extends"
  let base ← optionalPart isDerived (inner .access)
  let members ← classBody inner
  return .mk (.classDefinition isDeclaration (.written (← spanFrom lo)))
    [name, .list [], .list members, base]

end Parser

end HostProps
