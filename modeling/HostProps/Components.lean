import HostProps.Event
import HostProps.Text.Identifier
import HostProps.Walk

/-!
# Imported components

The components that a document imports at its top level: the local names of the declarators that
bind an import, if the name looks like that of a component and the specifier like that of a script.
A name that is imported twice occurs twice.
-/

namespace HostProps

/-- What was found so far: the names of components, and the events. -/
structure Findings where
  names : List String
  events : List Event

namespace Findings

/-- Judge an import: it is a component by its name and its specifier. -/
def add (f : Findings) (b : ImportBinding) : Findings :=
  if !isComponentName b.name then
    { f with events := f.events ++ [.nonComponentIgnored b.name] }
  else if !isScriptSpecifier b.specifier then
    { f with events := f.events ++ [.nonScriptIgnored b.name b.specifier] }
  else
    ⟨f.names ++ [b.name], f.events ++ [.componentDetected b.name b.specifier b.shape]⟩

/-- Judge the import that a declarator binds, if it does. -/
def addDeclarator (f : Findings) (declarator : Node) : Findings :=
  match declarator.importBinding? with
  | some b => f.add b
  | none => f

/-- Judge the declarators of a statement at the top level. -/
def visit (f : Findings) (n : Node) (place : Place) : Findings × Control :=
  if 0 < place.depth then (f, .skip)
  else (((n.declarators?).getD []).foldl addDeclarator f, .enter)

end Findings

namespace Module

/-- The names of the components that a module imports at its top level. -/
def components (m : Module) : List String × List Event :=
  let found := m.walk Findings.visit ⟨[], []⟩
  (found.names, found.events)

/-- What each declarator of each declaration at the top level binds. -/
def importBindings (m : Module) : List (Option ImportBinding) :=
  (m.body.flatMap fun n => (n.declarators?).getD []).map Node.importBinding?

end Module

end HostProps
