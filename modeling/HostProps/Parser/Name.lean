import HostProps.Parser.Reading

/-!
# Names and keys

Which words can name variables, and how names, keys and literals are read.
-/

namespace HostProps

/-- The names of variables that may be used but not declared. -/
def isUndeclarable (name : String) : Bool := name == "eval" || name == "arguments"

/-- A word that may name a variable. -/
def Token.isVariable : Token → Bool
  | .word name isPlain => isPlain || !isReserved name
  | _ => false

namespace Parser

/-! ### Names -/

/-- Read a word, whatever it means. -/
def anyWord : Parser (String × Span) := do
  match ← someToken with
  | .word name _ =>
    let s ← span
    advance
    return (name, s)
  | _ => failHere .nameExpected

/-- Read the name of a variable. -/
def variableName : Parser (String × Span) := do
  let isPlain := match ← token with
    | .word _ isPlain => isPlain
    | _ => false
  let (name, s) ← anyWord
  unless isPlain do
    reportIf (strictWords.contains name) (.reservedName name) s.lo
    if name == "await" then fail .awaitAsName s.lo
    if isKeyword name then fail .nameExpected s.lo
  return (name, s)

/-- Read the use of a variable, or a label. -/
def reference : Parser Node := do
  let (name, s) ← variableName
  return .mk (.reference (.written s) name) []

/-- Read a variable that is declared, and show it as one that is used. -/
def declaredReference : Parser Node := do
  let (name, s) ← variableName
  reportIf (isUndeclarable name) .reservedBinding s.lo
  return .mk (.reference (.written s) name) []

/-- Read a variable that is declared. -/
def declaredVariable : Parser Node := do
  let (name, s) ← variableName
  reportIf (isUndeclarable name) .reservedBinding s.lo
  return .mk (.binding (.written s) name) []

/-- Read the name of a property. -/
def propertyName : Parser Node := do
  let (name, s) ← anyWord
  return .mk (.name s name) []

/-- Read a name after `#`. -/
def privateName : Parser Node := do
  let lo ← position
  expect "#"
  let (name, _) ← anyWord
  return .mk (.privateName (← spanFrom lo) name) []

/-! ### Literals -/

/-- The node of a token that is a literal. -/
def literal? (s : Span) : Token → Option Node
  | .string value raw => some (.mk (.string s value (some raw)) [])
  | .number value raw => some (.mk (.number s value (some raw)) [])
  | .bigInt value raw => some (.mk (.bigInt s value (some raw)) [])
  | _ => none

/-- Read a string literal, if one is at hand. -/
def string? : Parser (Option Node) := do
  match ← token with
  | .string value raw =>
    let s ← span
    advance
    return some (.mk (.string s value (some raw)) [])
  | _ => return none

/-- Read the name that a module exports something as: a word or a string. -/
def exportName : Parser Node := do
  match ← someToken with
  | .word _ _ =>
    let (name, s) ← anyWord
    return .mk (.reference (.written s) name) []
  | _ =>
    match ← string? with
    | some n => return n
    | none => failUnexpected "identifier or string"

/-! ### Keys -/

/-- Read an expression in brackets, as a key or a property. -/
def computed (inner : Inner) (read : Goal) : Parser Node := do
  let lo ← position
  expect "["
  let e ← allowingIn (inner read)
  expect "]"
  finish .computed lo [e]

/-- Read the key of a property. -/
def propertyKey (inner : Inner) : Parser Node := do
  let t ← someToken
  let s ← span
  match literal? s t, t with
  | some n, _ =>
    advance
    return n
  | none, .word _ _ => propertyName
  | none, .symbol "[" => computed inner .assignment
  | none, _ =>
    failUnexpected "identifier, string literal, numeric literal or [ for the computed key"

end Parser

end HostProps
