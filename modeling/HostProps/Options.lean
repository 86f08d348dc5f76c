import HostProps.Event
import HostProps.Text.Identifier

/-!
# Options

What a user configures, its interchange form, and the settings that the pass works with.

An option that is missing takes its default, and one that is `null` is turned off.  A property is
given by a name, by a key and a value, or by the name of a runtime, which stands for all the keys
of that runtime.  `Options.resolve` expands the runtimes, drops what cannot stand as an identifier,
and merges properties of one key: the first place and the last value.
-/

namespace HostProps

/-! ### Runtimes -/

/-- The keys that runtimes expose, with the local names that documents bind them to. -/
def runtimeVariables : List (String × String) :=
  [("Fragment", "_Fragment"), ("jsx", "_jsx"), ("jsxs", "_jsxs"), ("jsxDev", "_jsxDev")]

/-- The local name of a runtime key. -/
def runtimeVariable? (key : String) : Option String :=
  (runtimeVariables.find? (·.1 == key)).map (·.2)

/-- A group of exports that the host passes in together. -/
inductive Runtime where
  | production | development
deriving DecidableEq, Inhabited, Repr

namespace Runtime

def text : Runtime → String
  | production => "production" | development => "development"

def ofText? (s : String) : Option Runtime := [production, development].find? (·.text == s)

/-- The name that stands for a runtime in a list of properties. -/
def token : Runtime → String
  | production => "jsx-runtime" | development => "jsx-dev-runtime"

def ofToken? (s : String) : Option Runtime := [production, development].find? (·.token == s)

/-- The keys that a runtime exposes. -/
def keys : Runtime → List String
  | production => ["Fragment", "jsx", "jsxs"]
  | development => ["Fragment", "jsxDev"]

/-- The keys of a runtime with their local names. -/
def pairs (r : Runtime) : List (String × String) :=
  r.keys.filterMap fun key => (runtimeVariable? key).map (key, ·)

end Runtime

/-! ### Options -/

/-- Something to pass to imported components: a key with the variable that is its value, or all the
keys of a runtime. -/
inductive PropertySource where
  | pair (key value : String)
  | runtime (runtime : Runtime)
deriving DecidableEq, Inhabited, Repr

namespace PropertySource

/-- A name stands for a runtime, or for itself as key and value. -/
def ofName (s : String) : PropertySource :=
  match Runtime.ofToken? s with
  | some r => runtime r
  | none => pair s s

/-- The keys with their values that a source stands for. -/
def pairs : PropertySource → List (String × String)
  | pair key value => [(key, value)]
  | runtime r => r.pairs

/-- The runtime that a source names. -/
def runtime? : PropertySource → Option Runtime
  | pair _ _ => none
  | runtime r => some r

/-- A name where one is enough, else key and value. -/
def toJson : PropertySource → Json
  | pair key value => if key = value then .string key else .array [.string key, .string value]
  | runtime r => .string r.token

def ofJson? : Json → Option PropertySource
  | .string s => some (ofName s)
  | .array [.string key, .string value] => some (pair key value)
  | _ => none

end PropertySource

/-- What a user configures; `none` turns a feature off. -/
structure Options where
  /-- Names to take out of the first argument. -/
  argumentsToAdd : Option (List String)
  /-- Properties to pass to imported components. -/
  propertiesToInject : Option (List PropertySource)
  /-- The key to pass all properties under. -/
  wrapperKey : Option String
deriving DecidableEq, Inhabited, Repr

namespace Options

/-- Take `React` out of the first argument and pass it to imported components. -/
def default : Options :=
  ⟨some ["React"], some [.pair "React" "React"], none⟩

/-- An optional field: its value, or none if it is `null`. -/
def optionalField? {α : Type} (read : Json → Option α) : Json → Option (Option α)
  | .null => some none
  | j => (read j).map some

def propertiesOfJson? (j : Json) : Option (List PropertySource) :=
  j.array?.bind (·.mapM PropertySource.ofJson?)

/-- Options from up to three values, each either missing or given. -/
def ofFields? (arguments properties key : Option Json) : Option Options := do
  return {
    argumentsToAdd := ← (arguments.map (optionalField? Json.strings?)).getD
      (some default.argumentsToAdd)
    propertiesToInject := ← (properties.map (optionalField? propertiesOfJson?)).getD
      (some default.propertiesToInject)
    wrapperKey := ← (key.map (optionalField? Json.string?)).getD (some default.wrapperKey) }

/-- Options are an object with up to three fields, or the list of their values. -/
def ofJson? : Json → Option Options
  | .object fields =>
    let o := Json.object fields
    ofFields? (o.field? "argumentsToBeAdded") (o.field? "propertiesToBeInjected")
      (o.field? "runtimePropsKey")
  | .array items =>
    if items.length ≤ 3 then ofFields? items[0]? items[1]? items[2]? else none
  | _ => none

def toJson (o : Options) : Json :=
  .object [("argumentsToBeAdded", .ofOption .ofStrings o.argumentsToAdd),
    ("propertiesToBeInjected",
      .ofOption (fun ps => .array (ps.map PropertySource.toJson)) o.propertiesToInject),
    ("runtimePropsKey", .ofOption .string o.wrapperKey)]

end Options

/-! ### Settings -/

/-- Options made ready for the pass. -/
structure Settings where
  /-- Names to take out of the first argument, repeated ones included. -/
  arguments : List String
  /-- Keys, each once, with the variables that are their values. -/
  properties : List (String × String)
  /-- The runtimes whose keys must be taken out of the first argument, each once. -/
  runtimes : List Runtime
  /-- The key to pass all properties under. -/
  wrapperKey : Option String
deriving DecidableEq, Inhabited, Repr

namespace Settings

/-- Give a key a value: in its place if it has one, else at the end. -/
def setProperty (key value : String) : List (String × String) → List (String × String)
  | [] => [(key, value)]
  | (k, v) :: rest =>
    if k == key then (k, value) :: rest else (k, v) :: setProperty key value rest

/-- Add a runtime, unless it is there. -/
def addRuntime (runtimes : List Runtime) (r : Runtime) : List Runtime :=
  if runtimes.contains r then runtimes else runtimes ++ [r]

/-- Merge pairs into some properties.  Values are references, so a value that is no identifier name
is left out, with an event. -/
def mergePairs (properties : List (String × String)) :
    List (String × String) → List (String × String) × List Event
  | [] => (properties, [])
  | (key, value) :: rest =>
    if isIdentifierName value then mergePairs (setProperty key value properties) rest
    else
      let (merged, events) := mergePairs properties rest
      (merged, .propertyIgnored key value :: events)

/-- Merge property sources into some properties and runtimes. -/
def mergeSources (properties : List (String × String)) (runtimes : List Runtime) :
    List PropertySource → List (String × String) × List Runtime × List Event
  | [] => (properties, runtimes, [])
  | source :: rest =>
    let (merged, events) := mergePairs properties source.pairs
    let runtimes := match source.runtime? with
      | some r => addRuntime runtimes r
      | none => runtimes
    let (properties, runtimes, later) := mergeSources merged runtimes rest
    (properties, runtimes, events ++ later)

/-- Keep the identifier names; each other name leaves an event. -/
def keepNames : List String → List String × List Event
  | [] => ([], [])
  | name :: rest =>
    let (names, events) := keepNames rest
    if isIdentifierName name then (name :: names, events)
    else (names, .argumentIgnored name :: events)

end Settings

/-- The settings that options stand for, and what was left out. -/
def Options.resolve (o : Options) : Settings × List Event :=
  let (properties, runtimes, ignored) := Settings.mergeSources [] [] (o.propertiesToInject.getD [])
  let (arguments, ignoredNames) := Settings.keepNames (o.argumentsToAdd.getD [])
  (⟨arguments, properties, runtimes, o.wrapperKey⟩, ignored ++ ignoredNames)

end HostProps
