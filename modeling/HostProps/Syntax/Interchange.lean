import HostProps.Syntax.Layout

/-!
# The interchange form of trees

`Node.toJson` and `Node.ofJson?` go through `Head.layout` in the two directions.  A field that is
missing has its default: a flag is not set, a list is empty, anything else is absent.  A construct
that is not known is kept as it is written.
-/

namespace HostProps

namespace Head

/-- The head of the node that an object is written for, if it is a known one. -/
def ofJson? (slot : Slot) (j : Json) : Option Head := do
  let span := Span.ofJson? (j.field "span")
  let origin : Option Origin := do return ⟨← span, ((j.field "ctxt").nat?).getD 0, []⟩
  let text (name : String) := (j.field name).string?
  let flag (name : String) := ((j.field name).bool?).getD false
  let value := text "value"
  let raw := text "raw"
  let function (role : FunctionRole) : Option Head := do
    return .function role (← origin) (flag "async") (flag "generator")
  let phase := (text "phase").getD "evaluation"
  let method (isPrivate : Bool) : Option Head := do
    let kind ← MethodKind.ofText? (← text "kind")
    return .classMethod isPrivate (← origin) kind (flag "isStatic")
  match text "type" with
  | none =>
    if (j.field? "expression").isSome then some (.argument (Span.ofJson? (j.field "spread")))
    else function .classMember
  | some "Identifier" =>
    match slot with
    | .key => return .name (← span) (← value)
    | .pattern => return .binding (← origin) (← value)
    | _ => return .reference (← origin) (← value)
  | some "PrivateName" => return .privateName (← span) (← value)
  | some "StringLiteral" => return .string (← span) (← value) raw
  | some "NumericLiteral" => return .number (← span) (← (j.field "value").double?) raw
  | some "BigIntLiteral" => return .bigInt (← span) (← (j.field "value").integer?) raw
  | some "BooleanLiteral" => return .boolean (← span) (flag "value")
  | some "RegExpLiteral" => return .regExp (← span) (← text "pattern") (← text "flags")
  | some "TemplateElement" =>
    return .templateElement (← span) (flag "tail") (text "cooked") (← raw)
  | some "SpreadElement" => return .spread (← Span.ofJson? (j.field "spread"))
  | some "RestElement" => return .rest (← origin) (← Span.ofJson? (j.field "rest"))
  | some "VariableDeclaration" =>
    return .variableDeclaration (← origin) (← (← text "kind") |> VariableKind.ofText?)
  | some "FunctionDeclaration" => function .declaration
  | some "FunctionExpression" => function .expression
  | some "MethodProperty" => function .method
  | some "ArrowFunctionExpression" => return .arrow (← origin) (flag "async")
  | some "ClassDeclaration" => return .classDefinition true (← origin)
  | some "ClassExpression" => return .classDefinition false (← origin)
  | some "ClassMethod" => method false
  | some "PrivateMethod" => method true
  | some "ClassProperty" => return .classProperty false (← origin) (flag "isStatic")
  | some "PrivateProperty" => return .classProperty true (← origin) (flag "isStatic")
  | some "UnaryExpression" =>
    return .unary (← span) (← (← text "operator") |> UnaryOperator.ofText?)
  | some "UpdateExpression" =>
    return .update (← span) (← (← text "operator") |> UpdateOperator.ofText?) (flag "prefix")
  | some "BinaryExpression" =>
    return .binary (← span) (← (← text "operator") |> BinaryOperator.ofText?)
  | some "AssignmentExpression" =>
    return .assignment (← span) (← (← text "operator") |> AssignmentOperator.ofText?)
  | some "YieldExpression" => return .yield (← span) (flag "delegate")
  | some "MetaProperty" => return .metaProperty (← span) (← text "kind")
  | some "OptionalChainingExpression" => return .optionalChain (← span) (flag "optional")
  | some "Import" => return .importKeyword (← span) phase
  | some "ImportDeclaration" => return .importDeclaration (← origin) phase
  | some "ForOfStatement" => return .forOf (← span) (flag "await")
  | some "JSXOpeningElement" => return .jsxOpening (← origin) (flag "selfClosing")
  | some "JSXText" => return .jsxText (← span) (← value) (← raw)
  | some "CallExpression" =>
    return .plain (if slot = .link then .optionalCall else .call) (← origin)
  | some typeName => return .plain (← Form.ofTypeName? typeName) (origin.getD .generated)

/-- The annotations of an object that is written for a head: the fields of typed dialects that do
not have their default. -/
def annotationsOf (h : Head) (j : Json) : List (String × Json) :=
  h.typedFields.filterMap fun (field, default) =>
    (j.field? field).bind fun value => if value = default then none else some (field, value)

end Head

/-! ### Trees -/

namespace Node

mutual

/-- The interchange form of a tree. -/
def toJson : Node → Json
  | mk .absent _ => .null
  | mk .sequence ps => .array (partsToJson ps)
  | mk (.foreign content) _ => content
  | mk h ps =>
    let layout := h.layout
    .object (layout.typeName.toList.map (("type", .string ·)) ++ layout.fields ++
      h.annotationFields ++ (layout.parts.map (·.1)).zip (partsToJson ps))

def partsToJson : List Node → List Json
  | [] => []
  | n :: ns => n.toJson :: partsToJson ns

end

mutual

/-- The tree that an interchange form denotes in some slot, if it is one. -/
def ofJson? (slot : Slot) : Json → Option Node
  | .null => some .absent
  | .array items => do return .list (← ofItems? slot.item items)
  | .object fields =>
    match Head.ofJson? slot (.object fields) with
    | some head => do
      let named := head.layout.parts
      let nodes := ofFields named fields
      let parts ← named.mapM fun (name, slot) =>
        match nodes.find? (·.1 == name) with
        | some (_, node) => node
        | none => some (if slot.isList then .list [] else .absent)
      return .mk (head.annotate (head.annotationsOf (.object fields))) parts
    | none => some (.mk (.foreign (.object fields)) [])
  | _ => none

def ofItems? (slot : Slot) : List Json → Option (List Node)
  | [] => some []
  | j :: rest => do return (← ofJson? slot j) :: (← ofItems? slot rest)

/-- What the fields of an object denote that are among some named parts. -/
def ofFields (named : List (String × Slot)) :
    List (String × Json) → List (String × Option Node)
  | [] => []
  | (name, j) :: rest =>
    match named.lookup name with
    | some slot => (name, ofJson? slot j) :: ofFields named rest
    | none => ofFields named rest

end

end Node

namespace Module

def toJson (m : Module) : Json :=
  .object [("type", .string "Module"), ("span", m.span.toJson),
    ("body", .array (Node.partsToJson m.body)), ("interpreter", .ofOption .string m.interpreter)]

def ofJson? (j : Json) : Option Module := do
  let body ← (j.field "body").array?
  return ⟨← Span.ofJson? (j.field "span"), ← Node.ofItems? .node body,
    (j.field "interpreter").string?⟩

end Module

namespace CommentKind

def text : CommentKind → String
  | line => "Line" | block => "Block"

def ofText? (s : String) : Option CommentKind := [line, block].find? (·.text == s)

end CommentKind

namespace Comment

def toJson (c : Comment) : Json :=
  .object [("kind", .string c.kind.text), ("span", c.span.toJson), ("text", .string c.text)]

def ofJson? (j : Json) : Option Comment := do
  return ⟨← CommentKind.ofText? (← (j.field "kind").string?), ← Span.ofJson? (j.field "span"),
    ← (j.field "text").string?⟩

end Comment

end HostProps
