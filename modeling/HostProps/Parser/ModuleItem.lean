import HostProps.Parser.Statement

/-!
# Imports and exports

What stands at the top of a module: statements, and declarations of what it takes from other
modules and hands to them.
-/

namespace HostProps

namespace Parser

/-- Read the name of another module. -/
def source : Parser Node := do
  let _ ← someToken
  match ← string? with
  | some n => return n
  | none => failUnexpected "a string literal"

/-- Read `from`, the name of another module, and the end of the declaration. -/
def fromSource : Parser Node := do
  expectWord "from"
  let n ← source
  expectSemicolon
  return n

/-! ### Imports -/

/-- Read what is imported by name. -/
def importSpecifier : Parser Node := do
  let lo ← position
  let imported ← exportName
  if ← eatWord "as" then
    let localName ← declaredReference
    finish .importNamed lo [localName, imported]
  else
    match imported with
    | .mk (.string s value _) _ => fail (.importedString value) s.lo
    | _ => finish .importNamed lo [imported, .absent]

/-- Read a variable that stands for what a module exports by default.  A comma follows if more is
imported. -/
def importDefault : Parser (List Node) := do
  if (← token).isVariable then
    let localName ← declaredReference
    unless ← isWord "from" do expect ","
    return [.plain .importDefault (.written localName.span) [localName]]
  else return []

/-- Read the names that a module is imported by, or what is imported from it by name. -/
def importNames : Parser (List Node) := do
  let lo ← position
  if ← eat "*" then
    expectWord "as"
    let localName ← declaredReference
    return [← finish .importNamespace lo [localName]]
  else if ← eat "\x7b" then commaList (atClose "\x7d") "\x7d" importSpecifier
  else return []

/-- Read an import. -/
def importDeclaration : Parser Node := do
  let lo ← position
  expectWord "import"
  let declaration (names : List Node) (path : Node) : Parser Node := do
    return .mk (.importDeclaration (.written (← spanFrom lo)) "evaluation")
      [.list names, path, .absent]
  match ← string? with
  | some path =>
    expectSemicolon
    declaration [] path
  | none =>
    let default ← importDefault
    let names ← importNames
    let path ← fromSource
    declaration (default ++ names) path

/-! ### Exports -/

/-- Read what is exported by name. -/
def exportSpecifier : Parser Node := do
  let lo ← position
  let localName ← exportName
  let isRenamed ← eatWord "as"
  let exported ← optionalPart isRenamed exportName
  finish .exportSpecifier lo [localName, exported]

/-- Only variables of the module itself can be exported without naming another module. -/
def checkLocal : Node → Parser Unit
  | .mk _ (.mk (.string s _ _) _ :: _) => report .exportedString s.lo
  | .mk _ (.mk (.reference o name) _ :: _) =>
    reportIf (isKeyword name) (.exportWithoutSource name) o.span.lo
  | _ => pure ()

/-- Read what is exported after `export default`. -/
def exportDefault (inner : Inner) (lo : Nat) : Parser Node := do
  if ← isWord "class" then
    let d ← classDefinition inner false false
    finish .exportDefaultDeclaration lo [d]
  else if (← isWord "function") || (← atAsyncFunction) then
    let d ← function inner .expression false
    finish .exportDefaultDeclaration lo [d]
  else
    let e ← allowingIn (assignment inner)
    expectSemicolon
    finish .exportDefaultExpression lo [e]

/-- Read `*` and what follows: all that another module exports, or that as one name. -/
def exportAll (lo : Nat) : Parser Node := do
  let starLo ← position
  expect "*"
  if ← eatWord "as" then
    let name ← exportName
    let specifier ← finish .exportNamespace starLo [name]
    let path ← fromSource
    finish .exportNamed lo [.list [specifier], path, .absent]
  else
    let path ← fromSource
    finish .exportAll lo [path, .absent]

/-- Read names in braces, and the module that they are from. -/
def exportNames (lo : Nat) : Parser Node := do
  expect "\x7b"
  let names ← commaList (atClose "\x7d") "\x7d" exportSpecifier
  if ← isWord "from" then
    let path ← fromSource
    finish .exportNamed lo [.list names, path, .absent]
  else
    names.forM checkLocal
    let _ ← eatSemicolon
    finish .exportNamed lo [.list names, .absent, .absent]

/-- Read an export. -/
def exportDeclaration (inner : Inner) : Parser Node := do
  let lo ← position
  expectWord "export"
  let _ ← someToken
  let declaring (d : Parser Node) : Parser Node := do
    let d ← d
    finish .exportDeclaration lo [d]
  if ← eatWord "default" then exportDefault inner lo
  else if ← isWord "class" then declaring (classDefinition inner true true)
  else if (← isWord "function") || (← atAsyncFunction) then
    declaring (function inner .declaration true)
  else
    match ← variableKind? with
    | some kind => declaring (variableDeclaration inner false kind)
    | none => if ← isSymbol "*" then exportAll lo else exportNames lo

/-! ### All -/

/-- Read a statement, an import or an export at the top of a module. -/
def moduleItem (inner : Inner) : Parser Node := do
  if ← atImportExpression then importStatement inner
  else if ← isWord "import" then importDeclaration
  else if ← isWord "export" then exportDeclaration inner
  else if ← isWord "await" then awaitStatement inner
  else statement inner true

end Parser

end HostProps
