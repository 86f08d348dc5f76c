import HostProps.Event
import HostProps.Syntax.Generated
import HostProps.Syntax.View

/-!
# Passing properties to components

An element of a document is a call of a factory, such as `_jsx(Test, {a: 1})`.  If its first
argument is an imported component and its second one an object, then `Module.injectProperties`
puts generated properties in front of those of the object: `_jsx(Test, {React, a: 1})`.  In front,
because of two properties with one key the later counts, so what the author wrote keeps its
meaning.

Factories are matched by their names.  All calls of a module are looked at, also those in the
arguments of others.
-/

namespace HostProps

/-- The names of the functions that elements compile to. -/
def factoryNames : List String := ["_jsx", "_jsxs", "_jsxDEV"]

/-- What to pass to which components. -/
structure Injection where
  components : List String
  /-- Keys with the variables that are their values. -/
  properties : List (String × String)
  /-- The key to pass all properties under. -/
  wrapperKey : Option String
deriving DecidableEq, Inhabited, Repr

namespace Injection

/-- The properties that each matched call gets. -/
def generated (i : Injection) : List Node :=
  let pairs := i.properties.map fun (key, value) => Node.generatedPair key value
  match i.wrapperKey with
  | some key => [Node.generatedWrapper key pairs]
  | none => pairs

/-- Is there nothing to pass, or nobody to pass it to? -/
def isIdle (i : Injection) : Bool := i.components.isEmpty || i.properties.isEmpty

end Injection

namespace Node

/-- Is this a call of a factory with one of some components and an object?  Neither the callee nor
the arguments may be in parentheses, and the arguments may not be spread. -/
def isElementOf (components : List String) : Node → Bool
  | plain .call _
      [callee, mk .sequence (mk (.argument none) [component] ::
        mk (.argument none) [plain .object _ [mk .sequence _]] :: _)] =>
    callee.reference?.any factoryNames.contains && component.reference?.any components.contains
  | _ => false

/-- Put properties in front of those of the second argument of a call. -/
def prependProperties (properties : List Node) : Node → Node
  | plain .call o
      [callee, mk .sequence (first ::
        mk (.argument none) [plain .object objectOrigin [mk .sequence own]] :: others)] =>
    plain .call o [callee, list (first ::
      mk (.argument none) [plain .object objectOrigin [list (properties ++ own)]] :: others)]
  | n => n

mutual

/-- Put properties into all elements of some components in a tree, and count them. -/
def injectProperties (components : List String) (properties : List Node) : Node → Nat × Node
  | mk h ps =>
    let (count, ps') := injectIntoParts components properties ps
    if isElementOf components (mk h ps) then
      (count + 1, (mk h ps').prependProperties properties)
    else (count, mk h ps')

/-- Put properties into all elements of some components in some trees, and count them. -/
def injectIntoParts (components : List String) (properties : List Node) :
    List Node → Nat × List Node
  | [] => (0, [])
  | n :: ns =>
    let (here, n) := injectProperties components properties n
    let (later, ns) := injectIntoParts components properties ns
    (here + later, n :: ns)

end

end Node

/-- Pass properties to the components of a module.  Comes with the number of changed calls. -/
def Module.injectProperties (i : Injection) (m : Module) : Nat × Module × List Event :=
  if i.isIdle then (0, m, [])
  else
    let (count, body) := Node.injectIntoParts i.components i.generated m.body
    (count, { m with body := body }, [.propertiesInjected count])

end HostProps
