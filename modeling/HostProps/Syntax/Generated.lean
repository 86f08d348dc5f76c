import HostProps.Syntax.Node
import HostProps.Text.Identifier

/-!
# Generated trees

The nodes that the pass adds.  All of them come from nowhere: their spans are dummies, so they never
attract a comment and can be told from what was written.  Where a name is no identifier name it is
generated as a string instead.
-/

namespace HostProps

namespace Node

/-- The name of a property. -/
def generatedName (text : String) : Node := mk (.name Span.dummy text) []

/-- A use of a variable. -/
def generatedReference (name : String) : Node := mk (.reference .generated name) []

/-- A variable that is bound. -/
def generatedBinding (name : String) : Node := mk (.binding .generated name) []

/-- A string literal. -/
def generatedString (value : String) : Node := mk (.string Span.dummy value none) []

/-- A numeric literal. -/
def generatedNumber (value : Double) : Node := mk (.number Span.dummy value none) []

/-- `object.property` or `object[property]`. -/
def generatedMember (object property : Node) : Node := plain .member .generated [object, property]

/-- An expression in brackets. -/
def generatedComputed (e : Node) : Node := plain .computed .generated [e]

/-- The property `.name`, or `["name"]` if it is no identifier name. -/
def generatedProperty (name : String) : Node :=
  if isIdentifierName name then generatedName name else generatedComputed (generatedString name)

/-- The property `[index]`. -/
def generatedIndex (index : Double) : Node := generatedComputed (generatedNumber index)

/-- The key `name`, or `"name"` if it is no identifier name. -/
def generatedKey (name : String) : Node :=
  if isIdentifierName name then generatedName name else generatedString name

/-- The property `key: value` of an object, or only `key` if the two are one identifier name. -/
def generatedPair (key value : String) : Node :=
  if key == value && isIdentifierName key then generatedReference key
  else plain .keyValue .generated [generatedKey key, generatedReference value]

/-- An object with some properties. -/
def generatedObject (properties : List Node) : Node :=
  plain .object .generated [list properties]

/-- The property `key: { properties }` of an object. -/
def generatedWrapper (key : String) (properties : List Node) : Node :=
  plain .keyValue .generated [generatedKey key, generatedObject properties]

/-- The property `key: name` of a pattern. -/
def generatedPatternPair (key name : String) : Node :=
  plain .keyValuePattern .generated [generatedKey key, generatedBinding name]

/-- `arguments[0]` -/
def firstArgument : Node :=
  generatedMember (generatedReference "arguments") (generatedIndex .zero)

/-- `const name = arguments[0].name;` -/
def argumentDeclaration (name : String) : Node :=
  mk (.variableDeclaration .generated .const)
    [list [plain .declarator .generated
      [generatedBinding name, generatedMember firstArgument (generatedProperty name)]]]

end Node

end HostProps
