import HostProps.Syntax.View

/-!
# Declarators that bind an import

A document that is evaluated as the body of a function imports by

    const {default: A} = await import(resolve("./a.js"));

and other tools spell that in other ways.  `Node.importBinding?` recognises four shapes, tried in
the order of `ImportShape.all`: the pattern is a variable or an object that takes `default` first,
and the initialiser is the awaited import or its `default` member.  What is imported is a string or
the first argument of a call.  Parentheses do not matter anywhere.
-/

namespace HostProps

/-- The ways to bind the result of a dynamic import. -/
inductive ImportShape where
  /-- `const {default: A} = (await import(x)).default` -/
  | destructuredDefaultMember
  /-- `const A = (await import(x)).default` -/
  | defaultMember
  /-- `const {default: A} = await import(x)` -/
  | destructuredDefault
  /-- `const A = await import(x)` -/
  | wholeModule
deriving DecidableEq, Inhabited, Repr

namespace ImportShape

/-- The shapes, in order of priority. -/
def all : List ImportShape :=
  [destructuredDefaultMember, defaultMember, destructuredDefault, .wholeModule]

def name : ImportShape → String
  | destructuredDefaultMember => "DestructuredDefaultMember"
  | defaultMember => "DefaultMember"
  | destructuredDefault => "DestructuredDefault"
  | .wholeModule => "Namespace"

end ImportShape

/-- A declarator that binds an import: how, the local name, and the specifier of the module. -/
structure ImportBinding where
  shape : ImportShape
  name : String
  specifier : String
deriving DecidableEq, Inhabited, Repr

namespace Node

/-- The variable `A` of `{default: A, …}`.  Only the first property counts. -/
def destructuredDefault? : Node → Option String
  | plain .objectPattern _ [properties] =>
    match properties.items with
    | plain .keyValuePattern _ [key, value] :: _ =>
      if key.staticKey? = some "default" then value.binding? else none
    | _ => none
  | _ => none

/-- The source `x` of a call `import(x)`. -/
def importSource? (n : Node) : Option Node :=
  match n.unwrapParens with
  | plain .call _ [callee, arguments] =>
    match callee.unwrapParens with
    | mk (.importKeyword _ _) _ => firstArgument? arguments.items
    | _ => none
  | _ => none

/-- The source `x` of `await import(x)`. -/
def awaitedImportSource? (n : Node) : Option Node :=
  match n.unwrapParens with
  | plain .await _ [argument] => argument.importSource?
  | _ => none

/-- The source `x` of `(await import(x)).default`. -/
def defaultMemberSource? (n : Node) : Option Node :=
  match n.unwrapParens with
  | plain .member _ [object, mk (.name _ "default") _] => object.awaitedImportSource?
  | _ => none

/-- The specifier that a source names: itself a string, or the first argument of a call. -/
def specifier? (n : Node) : Option String :=
  match n.unwrapParens with
  | plain .call _ [callee, arguments] =>
    match callee.unwrapParens with
    | mk (.importKeyword _ _) _ | plain .super _ _ => none
    | _ => (firstArgument? arguments.items).bind string?
  | e => e.string?

end Node

namespace ImportShape

/-- The variable that a pattern of this shape binds to the import. -/
def boundName? : ImportShape → Node → Option String
  | destructuredDefaultMember | destructuredDefault => Node.destructuredDefault?
  | defaultMember | .wholeModule => Node.binding?

/-- The source that an initialiser of this shape imports. -/
def source? : ImportShape → Node → Option Node
  | destructuredDefaultMember | defaultMember => Node.defaultMemberSource?
  | destructuredDefault | .wholeModule => Node.awaitedImportSource?

/-- What a declarator of this shape binds. -/
def match? (shape : ImportShape) (pattern init : Node) : Option ImportBinding := do
  let name ← shape.boundName? pattern
  let source ← shape.source? init
  let specifier ← source.specifier?
  return ⟨shape, name, specifier⟩

end ImportShape

/-- The import that a declarator binds, by the first shape that fits. -/
def Node.importBinding? (declarator : Node) : Option ImportBinding :=
  match declarator.declarator? with
  | some (pattern, some init) => ImportShape.all.findSome? (·.match? pattern init)
  | _ => none

end HostProps
