import HostProps.Event
import HostProps.Syntax.Generated
import HostProps.Walk

/-!
# Taking values out of the first argument

A document that is evaluated as the body of a function gets the values of its host as the first
argument.  `Module.insertArguments` declares some of them, each by `const x = arguments[0].x;`,
before the first declaration of variables at the top level, so after the directives that a body may
start with.
-/

namespace HostProps

/-- Is this a statement that declares variables? -/
def Node.isVariableDeclaration : Node → Bool
  | mk (.variableDeclaration _ _) _ => true
  | _ => false

namespace Module

/-- The index in the body of the first statement that declares variables. -/
def firstVariableDeclaration? (m : Module) : Option Nat :=
  m.walk (fun found n place =>
    if n.isVariableDeclaration then (some place.index, .exit) else (found, .skip)) none

/-- Insert some nodes into the body, before the node at an index. -/
def insertAt (m : Module) (index : Nat) (nodes : List Node) : Module :=
  { m with body := m.body.take index ++ nodes ++ m.body.drop index }

/-- Declare values of the first argument.  Strings that are no identifier names are left out.
Comes with the index at which the declarations were inserted, if they were. -/
def insertArguments (names : List String) (m : Module) : Option Nat × Module × List Event :=
  let names := names.filter isIdentifierName
  if names.isEmpty then (none, m, [])
  else
    match m.firstVariableDeclaration? with
    | none => (none, m, [])
    | some index =>
      (some index, m.insertAt index (names.map Node.argumentDeclaration),
        [.argumentsInserted index names])

end Module

end HostProps
