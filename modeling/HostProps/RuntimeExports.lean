import HostProps.Options
import HostProps.Syntax.Generated
import HostProps.Walk

/-!
# Taking the exports of a runtime out of the first argument

A document takes what it uses of its runtime out of the first argument:

    const {jsx: _jsx, jsxs: _jsxs} = arguments[0];

`Module.addRuntimeExports` adds the keys of some runtimes that are missing there, each under its
local name, at the end of the pattern but in front of a rest element.  The properties that are there
stay as they are.
-/

namespace HostProps

namespace Node

/-- Is an expression `arguments[0]`?  Parentheses do not matter. -/
def isFirstArgument (n : Node) : Bool :=
  match n.unwrapParens with
  | plain .member _ [object, plain .computed _ [index]] =>
    object.unwrapParens.reference? == some "arguments" &&
      match index.unwrapParens with
      | mk (.number _ value _) _ => value.isZero
      | _ => false
  | _ => false

/-- The key of a property of a pattern, if it is static: `a` of `{a: b}`, `{a}` and `{a = 1}`. -/
def patternKey? : Node → Option String
  | plain .keyValuePattern _ [key, _] => key.staticKey?
  | plain .shorthandPattern _ [name, _] => name.binding?
  | _ => none

/-- Is a property of a pattern a rest element? -/
def isRest : Node → Bool
  | mk (.rest _ _) _ => true
  | _ => false

end Node

/-- The keys that are not among those that exist, each once and in the order of first
occurrence. -/
def missingKeys (existing : List String) : List String → List String
  | [] => []
  | key :: keys =>
    if existing.contains key then missingKeys existing keys
    else key :: missingKeys (key :: existing) keys

/-- The local name for a key of a runtime. -/
def runtimeVariable (key : String) : String := (runtimeVariable? key).getD key

/-- Add the keys of runtimes that are missing from the properties of a pattern, in front of the
first rest element.  Comes with the keys that were added. -/
def widenProperties (runtimes : List Runtime) (properties : List Node) :
    List String × List Node :=
  let missing := missingKeys (properties.filterMap Node.patternKey?) (runtimes.flatMap Runtime.keys)
  let added := missing.map fun key => Node.generatedPatternPair key (runtimeVariable key)
  (missing, properties.takeWhile (!·.isRest) ++ added ++ properties.dropWhile (!·.isRest))

/-- Widen a declarator that destructures the first argument. -/
def Node.widenDeclarator? (runtimes : List Runtime) : Node → Option (List String × Node)
  | plain .declarator o [plain .objectPattern patternOrigin [mk .sequence properties], init] =>
    if init.isFirstArgument then
      let (keys, properties) := widenProperties runtimes properties
      some (keys, plain .declarator o [plain .objectPattern patternOrigin [list properties], init])
    else none
  | _ => none

/-- Widen the first of some declarators that destructures the first argument. -/
def widenFirst? (runtimes : List Runtime) : List Node → Option (List String × List Node)
  | [] => none
  | d :: ds =>
    match d.widenDeclarator? runtimes with
    | some (keys, d) => some (keys, d :: ds)
    | none => (widenFirst? runtimes ds).map fun (keys, ds) => (keys, d :: ds)

/-- Widen a statement that declares variables. -/
def Node.widenStatement? (runtimes : List Runtime) : Node → Option (List String × Node)
  | mk (.variableDeclaration o kind) [mk .sequence declarators] =>
    (widenFirst? runtimes declarators).map fun (keys, declarators) =>
      (keys, mk (.variableDeclaration o kind) [list declarators])
  | _ => none

/-- The event of an added key. -/
def exportAddedEvent (key : String) : Event := .exportAdded key (runtimeVariable key)

/-- Take the exports of runtimes out of the first argument, in the first declarator at the top level
that destructures it.  Comes with the keys that were added. -/
def Module.addRuntimeExports (runtimes : List Runtime) (m : Module) :
    List String × Module × List Event :=
  if runtimes.isEmpty then ([], m, [])
  else
    let (added, m) := m.editWalk (fun added n _ =>
      match n.widenStatement? runtimes with
      | some (keys, n) => (keys, n, .exit)
      | none => (added, n, .skip)) 0 []
    (added, m, added.map exportAddedEvent)

end HostProps
