import HostProps.Json
import HostProps.ImportBinding
import HostProps.Text.Quoted

/-!
# The log

What the pass reports about its work.  Each operation returns its events beside its result, in the
order in which they happened; `Event.toJson` is the only place that knows their wording.
-/

namespace HostProps

/-- Something that the pass reports. -/
inductive Event where
  /-- A property is left out because its value cannot stand as an identifier. -/
  | propertyIgnored (key value : String)
  /-- An argument is left out because it cannot stand as an identifier. -/
  | argumentIgnored (name : String)
  /-- The pass starts on the document at a path. -/
  | passStarted (path : Option String)
  | argumentsInserted (index : Nat) (names : List String)
  /-- An import is no component by its local name. -/
  | nonComponentIgnored (name : String)
  /-- An import is no component by its specifier. -/
  | nonScriptIgnored (name specifier : String)
  | componentDetected (name specifier : String) (shape : ImportShape)
  | propertiesInjected (count : Nat)
  | exportAdded (key name : String)
deriving DecidableEq, Repr

namespace Event

/-- The importance, the wording and the data of an event. -/
def parts : Event → String × String × List (String × Json)
  | propertyIgnored key value =>
    ("TRACE", "Ignoring property with a non-identifier value",
      [("key", .string key), ("value", .string value)])
  | argumentIgnored name => ("TRACE", "Ignoring non-identifier argument", [("name", .string name)])
  | passStarted path =>
    ("DEBUG", "recma_import_react", [("path", .string (Quoted.option path))])
  | argumentsInserted index names =>
    ("DEBUG", "Inserted argument declarations",
      [("index", .ofNat index), ("names", .string (Quoted.list names))])
  | nonComponentIgnored name => ("TRACE", "Ignoring non-component import", [("name", .string name)])
  | nonScriptIgnored name specifier =>
    ("TRACE", "Ignoring non-script import",
      [("name", .string name), ("specifier", .string specifier)])
  | componentDetected name specifier shape =>
    ("DEBUG", "Detected imported component",
      [("name", .string name), ("specifier", .string specifier), ("shape", .string shape.name)])
  | propertiesInjected count =>
    ("DEBUG", "Injected properties into components", [("count", .ofNat count)])
  | exportAdded key name =>
    ("DEBUG", "Added runtime export", [("key", .string key), ("alias", .string name)])

/-- The start of the pass opens a span, all else is a message. -/
def isSpan : Event → Bool
  | passStarted _ => true
  | _ => false

def toJson (e : Event) : Json :=
  let (level, text, fields) := e.parts
  .object [(if e.isSpan then "span" else "message", .string text), ("level", .string level),
    ("fields", .object fields)]

end Event

end HostProps
