import HostProps.Syntax.Node

/-!
# How trees are laid out as objects

Every node is written as an object: its `type`, its own data, and its parts under their names.  A
missing part is `null` and a list of parts an array.  `Head.layout` says how each construct is
written, and is the only place that knows the names of the parts.

Three constructs share the type `Identifier`: the binding of a variable, its use, and the name of a
property.  Which one is meant follows from the place, so each part has a `Slot`, which says what
stands there.
-/

namespace HostProps

/-- What stands in a part of a construct. -/
inductive Slot where
  /-- An expression, a statement, or any construct that is like no other. -/
  | node
  /-- A pattern: an identifier is bound. -/
  | pattern
  /-- The key of a property: an identifier is only its name. -/
  | key
  /-- What a link of an optional chain applies to: a call is an optional one. -/
  | link
  /-- A list, of what stands in a `node`. -/
  | nodes
  /-- A list of patterns. -/
  | patterns
deriving DecidableEq, Inhabited, Repr

namespace Slot

/-- Is a list in this part, so that a missing one is empty? -/
def isList : Slot → Bool
  | nodes | patterns => true
  | _ => false

/-- What the items of a list in this part are. -/
def item : Slot → Slot
  | patterns => pattern
  | _ => node

end Slot

namespace Span

def toJson (s : Span) : Json :=
  .object [("start", .ofNat s.lo), ("end", .ofNat s.hi)]

def ofJson? (j : Json) : Option Span := do
  return ⟨← (j.field "start").nat?, ← (j.field "end").nat?⟩

end Span

namespace Form

/-- All constructs that hold nothing but their place. -/
def all : List Form :=
  [block, empty, debugger, withStatement, returnStatement, labeled, breakStatement,
    continueStatement, ifStatement, switchStatement, switchCase, throwStatement, tryStatement,
    catchClause, whileStatement, doWhile, forStatement, forIn, expressionStatement, declarator,
    this, super, array, object, call, optionalCall, new, member, superMember, sequenceExpression,
    conditional, await, parenthesis, template, taggedTemplate, null, computed, keyValue,
    assignmentProperty, getter, setter, objectPattern, arrayPattern, assignmentPattern,
    keyValuePattern, shorthandPattern, parameter, decorator, staticBlock, constructor,
    exportDeclaration, exportDefaultDeclaration, exportDefaultExpression, exportNamed, exportAll,
    importDefault, importNamespace, importNamed, exportSpecifier, exportNamespace,
    exportDefaultSpecifier,
    jsxElement, jsxClosing, jsxFragment, jsxOpeningFragment, jsxClosingFragment, jsxAttribute,
    jsxContainer, jsxEmpty, jsxSpreadChild, jsxMember, jsxNamespacedName]

/-- The type that a construct is written with, and the names of its parts with what stands there. -/
def shape : Form → String × List (String × Slot)
  | block => ("BlockStatement", [("stmts", .nodes)])
  | empty => ("EmptyStatement", [])
  | debugger => ("DebuggerStatement", [])
  | withStatement => ("WithStatement", [("object", .node), ("body", .node)])
  | returnStatement => ("ReturnStatement", [("argument", .node)])
  | labeled => ("LabeledStatement", [("label", .node), ("body", .node)])
  | breakStatement => ("BreakStatement", [("label", .node)])
  | continueStatement => ("ContinueStatement", [("label", .node)])
  | ifStatement => ("IfStatement", [("test", .node), ("consequent", .node), ("alternate", .node)])
  | switchStatement => ("SwitchStatement", [("discriminant", .node), ("cases", .nodes)])
  | switchCase => ("SwitchCase", [("test", .node), ("consequent", .nodes)])
  | throwStatement => ("ThrowStatement", [("argument", .node)])
  | tryStatement => ("TryStatement", [("block", .node), ("handler", .node), ("finalizer", .node)])
  | catchClause => ("CatchClause", [("param", .pattern), ("body", .node)])
  | whileStatement => ("WhileStatement", [("test", .node), ("body", .node)])
  | doWhile => ("DoWhileStatement", [("test", .node), ("body", .node)])
  | forStatement =>
    ("ForStatement", [("init", .node), ("test", .node), ("update", .node), ("body", .node)])
  | forIn => ("ForInStatement", [("left", .pattern), ("right", .node), ("body", .node)])
  | expressionStatement => ("ExpressionStatement", [("expression", .node)])
  | declarator => ("VariableDeclarator", [("id", .pattern), ("init", .node)])
  | this => ("ThisExpression", [])
  | super => ("Super", [])
  | array => ("ArrayExpression", [("elements", .nodes)])
  | object => ("ObjectExpression", [("properties", .nodes)])
  | call | optionalCall => ("CallExpression", [("callee", .node), ("arguments", .nodes)])
  | new => ("NewExpression", [("callee", .node), ("arguments", .node)])
  | member => ("MemberExpression", [("object", .node), ("property", .key)])
  | superMember => ("SuperPropExpression", [("obj", .node), ("property", .key)])
  | sequenceExpression => ("SequenceExpression", [("expressions", .nodes)])
  | conditional =>
    ("ConditionalExpression", [("test", .node), ("consequent", .node), ("alternate", .node)])
  | await => ("AwaitExpression", [("argument", .node)])
  | parenthesis => ("ParenthesisExpression", [("expression", .node)])
  | template => ("TemplateLiteral", [("expressions", .nodes), ("quasis", .nodes)])
  | taggedTemplate => ("TaggedTemplateExpression", [("tag", .node), ("template", .node)])
  | null => ("NullLiteral", [])
  | computed => ("Computed", [("expression", .node)])
  | keyValue => ("KeyValueProperty", [("key", .key), ("value", .node)])
  | assignmentProperty => ("AssignmentProperty", [("key", .node), ("value", .node)])
  | getter => ("GetterProperty", [("key", .key), ("body", .node)])
  | setter => ("SetterProperty", [("key", .key), ("param", .pattern), ("body", .node)])
  | objectPattern => ("ObjectPattern", [("properties", .nodes)])
  | arrayPattern => ("ArrayPattern", [("elements", .patterns)])
  | assignmentPattern => ("AssignmentPattern", [("left", .pattern), ("right", .node)])
  | keyValuePattern => ("KeyValuePatternProperty", [("key", .key), ("value", .pattern)])
  | shorthandPattern => ("AssignmentPatternProperty", [("key", .pattern), ("value", .node)])
  | parameter => ("Parameter", [("decorators", .nodes), ("pat", .pattern)])
  | decorator => ("Decorator", [("expression", .node)])
  | staticBlock => ("StaticBlock", [("body", .node)])
  | constructor => ("Constructor", [("key", .key), ("params", .nodes), ("body", .node)])
  | exportDeclaration => ("ExportDeclaration", [("declaration", .node)])
  | exportDefaultDeclaration => ("ExportDefaultDeclaration", [("decl", .node)])
  | exportDefaultExpression => ("ExportDefaultExpression", [("expression", .node)])
  | exportNamed =>
    ("ExportNamedDeclaration", [("specifiers", .nodes), ("source", .node), ("with", .node)])
  | exportAll => ("ExportAllDeclaration", [("source", .node), ("with", .node)])
  | importDefault => ("ImportDefaultSpecifier", [("local", .node)])
  | importNamespace => ("ImportNamespaceSpecifier", [("local", .node)])
  | importNamed => ("ImportSpecifier", [("local", .node), ("imported", .node)])
  | exportSpecifier => ("ExportSpecifier", [("orig", .node), ("exported", .node)])
  | exportNamespace => ("ExportNamespaceSpecifier", [("name", .node)])
  | exportDefaultSpecifier => ("ExportDefaultSpecifier", [("exported", .node)])
  | jsxElement => ("JSXElement", [("opening", .node), ("children", .nodes), ("closing", .node)])
  | jsxClosing => ("JSXClosingElement", [("name", .node)])
  | jsxFragment => ("JSXFragment", [("opening", .node), ("children", .nodes), ("closing", .node)])
  | jsxOpeningFragment => ("JSXOpeningFragment", [])
  | jsxClosingFragment => ("JSXClosingFragment", [])
  | jsxAttribute => ("JSXAttribute", [("name", .key), ("value", .node)])
  | jsxContainer => ("JSXExpressionContainer", [("expression", .node)])
  | jsxEmpty => ("JSXEmptyExpression", [])
  | jsxSpreadChild => ("JSXSpreadChild", [("expression", .node)])
  | jsxMember => ("JSXMemberExpression", [("object", .node), ("property", .key)])
  | jsxNamespacedName => ("JSXNamespacedName", [("namespace", .key), ("name", .key)])

/-- The constructs that have a hygiene context. -/
def hasContext : Form → Bool
  | block | call | optionalCall | new | taggedTemplate | constructor => true
  | _ => false

/-- The properties of objects and patterns that have no span of their own. -/
def hasSpan : Form → Bool
  | keyValue | keyValuePattern => false
  | _ => true

/-- The fields that a typed dialect adds to a construct, with their defaults. -/
def typedFields : Form → List (String × Json)
  | declarator => [("definite", .bool false)]
  | call | optionalCall | new => [("typeArguments", .null)]
  | taggedTemplate => [("typeParameters", .null)]
  | getter => [("typeAnnotation", .null)]
  | setter => [("thisParam", .null)]
  | objectPattern | arrayPattern => [("optional", .bool false), ("typeAnnotation", .null)]
  | constructor => [("accessibility", .null), ("isOptional", .bool false)]
  | exportNamed | exportAll => [("typeOnly", .bool false)]
  | importNamed | exportSpecifier => [("isTypeOnly", .bool false)]
  | _ => []

/-- The construct with a type name.  A call is an ordinary one. -/
def ofTypeName? (typeName : String) : Option Form :=
  all.find? (·.shape.1 == typeName)

end Form

namespace VariableKind

def all : List VariableKind := [var, .let, const]

def text : VariableKind → String
  | var => "var" | .let => "let" | const => "const"

def ofText? (s : String) : Option VariableKind := all.find? (·.text == s)

end VariableKind

namespace MethodKind

def text : MethodKind → String
  | method => "method" | getter => "getter" | setter => "setter"

def ofText? (s : String) : Option MethodKind := [method, getter, setter].find? (·.text == s)

end MethodKind

/-- The base of the digits of integers of any size, `2 ^ 32`. -/
def digitBase : Nat := 0x100000000

/-- The digits of a natural, the lowest first; there are no more than `count`. -/
def digitsOf : Nat → Nat → List Nat
  | 0, _ => []
  | count + 1, n => if n = 0 then [] else n % digitBase :: digitsOf count (n / digitBase)

/-- The natural with some digits, the lowest first. -/
def ofDigits (ds : List Nat) : Nat := ds.foldr (fun d n => n * digitBase + d) 0

/-- Integers of any size are written as a sign and the digits of the magnitude. -/
def Json.ofInteger (i : Int) : Json :=
  .array [.number i.sign 0, .array ((digitsOf (i.natAbs.log2 + 1) i.natAbs).map .ofNat)]

def Json.integer? : Json → Option Int
  | .array [.number sign _, .array digits] => do return sign * ofDigits (← digits.mapM Json.nat?)
  | _ => none

/-! ### Layout -/

/-- How a node is written: its type, if it has one, its own fields, and the names of its parts with
what stands there. -/
structure Layout where
  typeName : Option String
  fields : List (String × Json)
  parts : List (String × Slot)

namespace Head

def spanField (s : Span) : String × Json := ("span", s.toJson)

def originFields (o : Origin) : List (String × Json) :=
  [("span", o.span.toJson), ("ctxt", .ofNat o.context)]

def rawField (raw : Option String) : String × Json := ("raw", .ofOption .string raw)

def flag (name : String) (b : Bool) : String × Json := (name, .bool b)

def functionFields (o : Origin) (isAsync isGenerator : Bool) : List (String × Json) :=
  originFields o ++ [flag "async" isAsync, flag "generator" isGenerator]

/-- The parts of a function after its name or key. -/
def functionParts : List (String × Slot) :=
  [("params", .nodes), ("decorators", .nodes), ("body", .node)]

/-- How the nodes with a head are written, without the fields of typed dialects. -/
def layout : Head → Layout
  | absent | sequence => ⟨none, [], []⟩
  | plain form o =>
    let (typeName, parts) := form.shape
    let place := if form.hasContext then originFields o
      else if form.hasSpan then [spanField o.span] else []
    ⟨some typeName, place, parts⟩
  | reference o text => ⟨some "Identifier", originFields o ++ [("value", .string text)], []⟩
  | binding o text => ⟨some "Identifier", originFields o ++ [("value", .string text)], []⟩
  | name s text => ⟨some "Identifier", [spanField s, ("value", .string text)], []⟩
  | privateName s text => ⟨some "PrivateName", [spanField s, ("value", .string text)], []⟩
  | string s value raw =>
    ⟨some "StringLiteral", [spanField s, ("value", .string value), rawField raw], []⟩
  | number s value raw =>
    ⟨some "NumericLiteral", [spanField s, ("value", .ofDouble value), rawField raw], []⟩
  | bigInt s value raw =>
    ⟨some "BigIntLiteral", [spanField s, ("value", .ofInteger value), rawField raw], []⟩
  | boolean s value => ⟨some "BooleanLiteral", [spanField s, ("value", .bool value)], []⟩
  | regExp s pattern flags =>
    ⟨some "RegExpLiteral",
      [spanField s, ("pattern", .string pattern), ("flags", .string flags)], []⟩
  | templateElement s tail cooked raw =>
    ⟨some "TemplateElement", [spanField s, flag "tail" tail, ("cooked", .ofOption .string cooked),
      ("raw", .string raw)], []⟩
  | argument dots => ⟨none, [("spread", .ofOption Span.toJson dots)], [("expression", .node)]⟩
  | spread dots => ⟨some "SpreadElement", [("spread", dots.toJson)], [("arguments", .node)]⟩
  | rest o dots =>
    ⟨some "RestElement", [spanField o.span, ("rest", dots.toJson)], [("argument", .pattern)]⟩
  | variableDeclaration o kind =>
    ⟨some "VariableDeclaration", originFields o ++ [("kind", .string kind.text)],
      [("declarations", .nodes)]⟩
  | function .declaration o a g =>
    ⟨some "FunctionDeclaration", functionFields o a g, ("identifier", .node) :: functionParts⟩
  | function .expression o a g =>
    ⟨some "FunctionExpression", functionFields o a g, ("identifier", .node) :: functionParts⟩
  | function .method o a g =>
    ⟨some "MethodProperty", functionFields o a g, ("key", .key) :: functionParts⟩
  | function .classMember o a g => ⟨none, functionFields o a g, functionParts⟩
  | arrow o isAsync =>
    ⟨some "ArrowFunctionExpression", originFields o ++ [flag "async" isAsync],
      [("params", .patterns), ("body", .node)]⟩
  | classDefinition isDeclaration o =>
    ⟨some (if isDeclaration then "ClassDeclaration" else "ClassExpression"), originFields o,
      [("identifier", .node), ("decorators", .nodes), ("body", .nodes), ("superClass", .node)]⟩
  | classMethod isPrivate o kind isStatic =>
    ⟨some (if isPrivate then "PrivateMethod" else "ClassMethod"),
      [spanField o.span, ("kind", .string kind.text), flag "isStatic" isStatic],
      [("key", .key), ("function", .node)]⟩
  | classProperty isPrivate o isStatic =>
    ⟨some (if isPrivate then "PrivateProperty" else "ClassProperty"),
      (if isPrivate then originFields o else [spanField o.span]) ++ [flag "isStatic" isStatic],
      [("key", .key), ("value", .node), ("decorators", .nodes)]⟩
  | unary s op =>
    ⟨some "UnaryExpression", [spanField s, ("operator", .string op.text)], [("argument", .node)]⟩
  | update s op isBefore =>
    ⟨some "UpdateExpression", [spanField s, ("operator", .string op.text),
      flag "prefix" isBefore], [("argument", .node)]⟩
  | binary s op =>
    ⟨some "BinaryExpression", [spanField s, ("operator", .string op.text)],
      [("left", .node), ("right", .node)]⟩
  | assignment s op =>
    ⟨some "AssignmentExpression", [spanField s, ("operator", .string op.text)],
      [("left", .pattern), ("right", .node)]⟩
  | yield s delegate =>
    ⟨some "YieldExpression", [spanField s, flag "delegate" delegate], [("argument", .node)]⟩
  | metaProperty s kind => ⟨some "MetaProperty", [spanField s, ("kind", .string kind)], []⟩
  | optionalChain s isOptional =>
    ⟨some "OptionalChainingExpression", [spanField s, flag "optional" isOptional],
      [("base", .link)]⟩
  | importKeyword s phase => ⟨some "Import", [spanField s, ("phase", .string phase)], []⟩
  | importDeclaration o phase =>
    ⟨some "ImportDeclaration", [spanField o.span, ("phase", .string phase)],
      [("specifiers", .nodes), ("source", .node), ("with", .node)]⟩
  | forOf s isAwait =>
    ⟨some "ForOfStatement", [spanField s, flag "await" isAwait],
      [("left", .pattern), ("right", .node), ("body", .node)]⟩
  | jsxOpening o selfClosing =>
    ⟨some "JSXOpeningElement", [spanField o.span, flag "selfClosing" selfClosing],
      [("name", .node), ("attributes", .nodes)]⟩
  | jsxText s value raw =>
    ⟨some "JSXText", [spanField s, ("value", .string value), ("raw", .string raw)], []⟩
  | foreign content => ⟨(content.field "type").string?, [], []⟩

/-! ### Fields of typed dialects -/

/-- The fields that a typed dialect adds to members of classes. -/
def typedMemberFields : List (String × Json) :=
  [("accessibility", .null), flag "isOptional" false, flag "isOverride" false]

/-- The fields that a typed dialect adds to the nodes with a head, with their defaults. -/
def typedFields : Head → List (String × Json)
  | plain form _ => form.typedFields
  | reference _ _ => [flag "optional" false]
  | binding _ _ => [flag "optional" false, ("typeAnnotation", .null)]
  | rest _ _ => [("typeAnnotation", .null)]
  | variableDeclaration _ _ => [flag "declare" false]
  | function role _ _ _ =>
    (if role = .declaration then [flag "declare" false] else []) ++
      [("returnType", .null), ("typeParameters", .null)]
  | arrow _ _ => [flag "generator" false, ("returnType", .null), ("typeParameters", .null)]
  | classDefinition isDeclaration _ =>
    (if isDeclaration then [flag "declare" false] else []) ++
      [("implements", .array []), flag "isAbstract" false, ("superTypeParams", .null),
        ("typeParams", .null)]
  | classMethod _ _ _ _ => flag "isAbstract" false :: typedMemberFields
  | classProperty isPrivate _ _ =>
    (if isPrivate then [] else [flag "isAbstract" false, flag "declare" false]) ++
      [flag "definite" false, flag "readonly" false, ("typeAnnotation", .null)] ++
      typedMemberFields
  | importDeclaration _ _ => [flag "typeOnly" false]
  | jsxOpening _ _ => [("typeArguments", .null)]
  | _ => []

/-- Where the nodes with a head come from, if that is more than a span. -/
def origin? : Head → Option Origin
  | plain _ o | reference o _ | binding o _ | rest o _ | variableDeclaration o _
  | function _ o _ _ | arrow o _ | classDefinition _ o | classMethod _ o _ _
  | classProperty _ o _ | importDeclaration o _ | jsxOpening o _ => some o
  | _ => none

/-- The same head with some annotations. -/
def annotate (as : List (String × Json)) : Head → Head
  | plain form o => plain form { o with annotations := as }
  | reference o text => reference { o with annotations := as } text
  | binding o text => binding { o with annotations := as } text
  | rest o dots => rest { o with annotations := as } dots
  | variableDeclaration o kind => variableDeclaration { o with annotations := as } kind
  | function role o a g => function role { o with annotations := as } a g
  | arrow o a => arrow { o with annotations := as } a
  | classDefinition d o => classDefinition d { o with annotations := as }
  | classMethod p o kind s => classMethod p { o with annotations := as } kind s
  | classProperty p o s => classProperty p { o with annotations := as } s
  | importDeclaration o phase => importDeclaration { o with annotations := as } phase
  | jsxOpening o selfClosing => jsxOpening { o with annotations := as } selfClosing
  | h => h

/-- The fields of typed dialects as they are written: the annotations, and else the defaults. -/
def annotationFields (h : Head) : List (String × Json) :=
  let annotations := (h.origin?.map Origin.annotations).getD []
  h.typedFields.map fun (field, default) => (field, (annotations.lookup field).getD default)

end Head

end HostProps
