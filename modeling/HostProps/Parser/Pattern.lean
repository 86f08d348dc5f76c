import HostProps.Parser.Target

/-!
# Patterns that declare variables

A pattern is a variable, or takes a value apart by its elements or its properties.  Each part may
have a default, and the last may be a rest.
-/

namespace HostProps

namespace Parser

/-- Read a pattern and the default after it, if there is one. -/
def bindingElement (inner : Inner) : Parser Node := do
  let lo ← position
  let pattern ← inner .binding
  if ← eat "=" then
    let value ← allowingIn (inner .assignment)
    finish .assignmentPattern lo [pattern, value]
  else return pattern

/-- Read the pattern after dots. -/
def restElement (inner : Inner) : Parser Node := do
  let lo ← position
  expect "..."
  let dots ← spanFrom lo
  let pattern ← inner .binding
  return .mk (.rest (.written (← spanFrom lo)) dots) [pattern]

/-- Is a rest? -/
def isRest : Node → Bool
  | .mk (.rest _ _) _ => true
  | _ => false

/-- Read items of a pattern up to a closing symbol: a rest must be the last.  `stop` tells when
there are no more items. -/
def patternItems (stop : Parser Bool) (close : String) (item : Parser Node) :
    Parser (List Node) := do
  let items ← collect stop do
    let x ← item
    unless ← isSymbol close do
      if !x.isAbsent then expect ","
      if isRest x then
        let comma := (← get).previous.lo
        if ← isSymbol close then report .commaAfterRest comma
        else report .restNotLast x.span.lo
    return x
  expect close
  return items

/-- Read an element of an array pattern: a comma alone is a hole.  Holes at the end are left out. -/
def arrayElement (inner : Inner) : Parser Node := do
  if ← eat "," then return .absent
  else if ← isSymbol "..." then restElement inner
  else bindingElement inner

def arrayPattern (inner : Inner) : Parser Node := do
  let lo ← position
  expect "["
  let items ← patternItems (atClose "]") "]" (arrayElement inner)
  finish .arrayPattern lo [.list (Node.dropHoles items)]

/-- Read a property of an object pattern. -/
def patternProperty (inner : Inner) : Parser Node := do
  if ← isSymbol "..." then restElement inner
  else
    let lo ← position
    let key ← propertyKey inner
    if ← eat ":" then
      return .plain .keyValuePattern .generated [key, ← bindingElement inner]
    else
      match key with
      | .mk (.name s name) _ =>
        let binding : Node := .mk (.binding (.written s) name) []
        if ← eat "=" then
          let value ← allowingIn (inner .assignment)
          finish .shorthandPattern lo [binding, value]
        else finish .shorthandPattern lo [binding, .absent]
      | _ => failUnexpected "an identifier"

def objectPattern (inner : Inner) : Parser Node := do
  let lo ← position
  expect "\x7b"
  let items ← patternItems (isSymbol "\x7d") "\x7d" (patternProperty inner)
  finish .objectPattern lo [.list items]

/-- Read a variable or a pattern. -/
def binding (inner : Inner) : Parser Node := do
  match ← someToken with
  | .word _ _ => declaredVariable
  | .symbol "[" => arrayPattern inner
  | .symbol "\x7b" => objectPattern inner
  | _ => failUnexpected "yield, an identifier, [ or \x7b"

end Parser

end HostProps
