import HostProps.Syntax.Span
import HostProps.Syntax.Operator
import HostProps.Number.Double

/-!
# Syntax trees

A program is a tree of nodes.  A node has a *head*, which names the construct and holds all that
is not a subtree (its place, names, operators, flags), and its *parts*, the subtrees in the order in
which they are visited.  A part that is missing is the node `absent`, and a part that is a list is
a node with the head `sequence`, so every construct has a fixed number of parts:

* a call has two, its callee and the sequence of its arguments;
* an `if` statement has three, its condition and its two branches, the second of which may be
  absent.

A pass over trees therefore has one function for a node and one for a list of nodes, with a case
for each construct that it treats in a way of its own, and none for the others.

Constructs that hold nothing but their place are listed in `Form`; the others have a constructor of
`Head`.
-/

namespace HostProps

/-- The constructs that hold nothing but their place and their parts, which are listed in order. -/
inductive Form where
  -- statements
  /-- `{ … }`: statements. -/
  | block
  /-- `;` -/
  | empty
  | debugger
  /-- Object and body. -/
  | withStatement
  /-- Argument or absent. -/
  | returnStatement
  /-- Label and body. -/
  | labeled
  /-- Label or absent. -/
  | breakStatement
  /-- Label or absent. -/
  | continueStatement
  /-- Condition, consequent, alternate or absent. -/
  | ifStatement
  /-- Discriminant and cases. -/
  | switchStatement
  /-- Value, absent for `default`, and statements. -/
  | switchCase
  /-- Argument. -/
  | throwStatement
  /-- Block, handler or absent, finalizer or absent. -/
  | tryStatement
  /-- Pattern or absent, and block. -/
  | catchClause
  /-- Condition and body. -/
  | whileStatement
  /-- Condition and body. -/
  | doWhile
  /-- Initialiser, condition, update, each maybe absent, and body. -/
  | forStatement
  /-- Left side, object and body. -/
  | forIn
  /-- Expression. -/
  | expressionStatement
  /-- Pattern, and initialiser or absent. -/
  | declarator
  -- expressions
  | this
  | super
  /-- Elements: arguments, or absent for a hole. -/
  | array
  /-- Properties. -/
  | object
  /-- Callee and arguments. -/
  | call
  /-- Callee and arguments of `a?.(b)`. -/
  | optionalCall
  /-- Callee, and arguments or absent. -/
  | new
  /-- Object and property: a name, a computed expression or a private name. -/
  | member
  /-- `super` and property. -/
  | superMember
  /-- Expressions. -/
  | sequenceExpression
  /-- Condition and two branches. -/
  | conditional
  /-- Argument. -/
  | await
  /-- Expression. -/
  | parenthesis
  /-- Expressions, and the text elements around them. -/
  | template
  /-- Function and template. -/
  | taggedTemplate
  | null
  /-- Expression in brackets, as a key or a property. -/
  | computed
  -- properties of objects
  /-- Key and value. -/
  | keyValue
  /-- Name and value of `{a = 1}`. -/
  | assignmentProperty
  /-- Key and block. -/
  | getter
  /-- Key, pattern and block. -/
  | setter
  -- patterns
  /-- Properties. -/
  | objectPattern
  /-- Elements, absent for a hole. -/
  | arrayPattern
  /-- Pattern and default. -/
  | assignmentPattern
  /-- Key and pattern. -/
  | keyValuePattern
  /-- Binding, and default or absent. -/
  | shorthandPattern
  /-- Decorators and pattern. -/
  | parameter
  -- functions and classes
  /-- Expression of `@a`. -/
  | decorator
  /-- Block. -/
  | staticBlock
  /-- Key, parameters and block. -/
  | constructor
  -- module declarations
  /-- Declaration. -/
  | exportDeclaration
  /-- Function or class. -/
  | exportDefaultDeclaration
  /-- Expression. -/
  | exportDefaultExpression
  /-- Specifiers, source or absent, attributes or absent. -/
  | exportNamed
  /-- Source, attributes or absent. -/
  | exportAll
  /-- Local name. -/
  | importDefault
  /-- Local name. -/
  | importNamespace
  /-- Local name, and imported name or absent. -/
  | importNamed
  /-- Local name, and exported name or absent. -/
  | exportSpecifier
  /-- Exported name. -/
  | exportNamespace
  /-- Exported name. -/
  | exportDefaultSpecifier
  -- elements
  /-- Opening tag, children, closing tag or absent. -/
  | jsxElement
  /-- Name. -/
  | jsxClosing
  /-- Opening tag, children, closing tag. -/
  | jsxFragment
  | jsxOpeningFragment
  | jsxClosingFragment
  /-- Name, and value or absent. -/
  | jsxAttribute
  /-- Expression. -/
  | jsxContainer
  | jsxEmpty
  /-- Expression. -/
  | jsxSpreadChild
  /-- Object and property. -/
  | jsxMember
  /-- Namespace and name. -/
  | jsxNamespacedName
deriving DecidableEq, Inhabited, Repr

/-- The keywords that declare variables. -/
inductive VariableKind where
  | var | let | const
deriving DecidableEq, Inhabited, Repr

/-- Where a function stands.  The parts of a declaration or an expression are its name (absent if
it has none), its parameters, its decorators and its body; those of a method have its key in place
of the name; those of the function of a class member are its parameters, its decorators and its
body. -/
inductive FunctionRole where
  | declaration | expression | method | classMember
deriving DecidableEq, Inhabited, Repr

/-- What a member of a class is called as. -/
inductive MethodKind where
  | method | getter | setter
deriving DecidableEq, Inhabited, Repr

/-- The construct of a node, with all that is not a subtree. -/
inductive Head where
  /-- A missing part. -/
  | absent
  /-- A list of parts. -/
  | sequence
  /-- A construct that holds nothing but its place. -/
  | plain (form : Form) (origin : Origin)
  /-- A use of a variable, or a label. -/
  | reference (origin : Origin) (name : String)
  /-- A variable that a pattern binds. -/
  | binding (origin : Origin) (name : String)
  /-- The name of a property or a member. -/
  | name (span : Span) (text : String)
  /-- `#text` -/
  | privateName (span : Span) (text : String)
  /-- `raw` is the text as written, if it was. -/
  | string (span : Span) (value : String) (raw : Option String)
  | number (span : Span) (value : Double) (raw : Option String)
  | bigInt (span : Span) (value : Int) (raw : Option String)
  | boolean (span : Span) (value : Bool)
  | regExp (span : Span) (pattern flags : String)
  /-- The text between two expressions of a template; `cooked` is its value. -/
  | templateElement (span : Span) (tail : Bool) (cooked : Option String) (raw : String)
  /-- An argument or an array element, with the place of its `...` if it has one. Part:
  expression. -/
  | argument (spread : Option Span)
  /-- `...a` in an object. Part: expression. -/
  | spread (dots : Span)
  /-- `...a` in a pattern. Part: pattern. -/
  | rest (origin : Origin) (dots : Span)
  /-- Part: declarators. -/
  | variableDeclaration (origin : Origin) (kind : VariableKind)
  /-- Parts: see `FunctionRole`. -/
  | function (role : FunctionRole) (origin : Origin) (isAsync isGenerator : Bool)
  /-- Parts: parameters, and block or expression. -/
  | arrow (origin : Origin) (isAsync : Bool)
  /-- Parts: name or absent, decorators, members, superclass or absent. -/
  | classDefinition (isDeclaration : Bool) (origin : Origin)
  /-- Parts: key and function. -/
  | classMethod (isPrivate : Bool) (origin : Origin) (kind : MethodKind) (isStatic : Bool)
  /-- Parts: key, value or absent, and decorators. -/
  | classProperty (isPrivate : Bool) (origin : Origin) (isStatic : Bool)
  /-- Part: operand. -/
  | unary (span : Span) (op : UnaryOperator)
  /-- Part: operand. -/
  | update (span : Span) (op : UpdateOperator) (isBefore : Bool)
  /-- Parts: operands. -/
  | binary (span : Span) (op : BinaryOperator)
  /-- Parts: target and value. -/
  | assignment (span : Span) (op : AssignmentOperator)
  /-- Part: argument or absent. -/
  | yield (span : Span) (delegate : Bool)
  /-- `import.meta` and `new.target`. -/
  | metaProperty (span : Span) (name : String)
  /-- Part: the member or call that follows `?.`, or one inside of the chain. -/
  | optionalChain (span : Span) (isOptional : Bool)
  /-- The callee of `import()`. -/
  | importKeyword (span : Span) (phase : String)
  /-- Parts: specifiers, source, attributes or absent. -/
  | importDeclaration (origin : Origin) (phase : String)
  /-- Parts: left side, iterable and body. -/
  | forOf (span : Span) (isAwait : Bool)
  /-- Parts: name and attributes. -/
  | jsxOpening (origin : Origin) (selfClosing : Bool)
  | jsxText (span : Span) (value raw : String)
  /-- A construct of another dialect, in its interchange form. -/
  | foreign (content : Json)
deriving DecidableEq, Inhabited, Repr

/-- A syntax tree. -/
inductive Node where
  | mk (head : Head) (parts : List Node)
deriving Inhabited

namespace Head

/-- The spans that a node has itself, in the order in which they are visited. -/
def spans : Head → List Span
  | absent | sequence | foreign _ => []
  | plain .keyValue _ | plain .keyValuePattern _ => []
  | plain _ o | reference o _ | binding o _ | variableDeclaration o _ | function _ o _ _
  | arrow o _ | classDefinition _ o | classMethod _ o _ _ | classProperty _ o _
  | importDeclaration o _ | jsxOpening o _ => [o.span]
  | name s _ | privateName s _ | string s _ _ | number s _ _ | bigInt s _ _ | boolean s _
  | regExp s _ _ | templateElement s _ _ _ | unary s _ | update s _ _ | binary s _
  | assignment s _ | yield s _ | metaProperty s _ | optionalChain s _ | importKeyword s _
  | forOf s _ | jsxText s _ _ => [s]
  | argument dots => dots.toList
  | spread dots => [dots]
  | rest o dots => [o.span, dots]

/-- How many parts are visited before the spans of the node itself. -/
def lead : Head → Nat
  | function .classMember _ _ _ => 2
  | function _ _ _ _ => 3
  | classDefinition _ _ => 1
  | jsxOpening _ _ => 1
  | _ => 0

end Head

namespace Node

def head : Node → Head
  | mk h _ => h

def parts : Node → List Node
  | mk _ ps => ps

@[simp] theorem head_mk (h : Head) (ps : List Node) : (mk h ps).head = h := rfl

@[simp] theorem parts_mk (h : Head) (ps : List Node) : (mk h ps).parts = ps := rfl

/-- A missing part. -/
@[match_pattern] def absent : Node := mk .absent []

/-- A part that is a list. -/
@[match_pattern] def list (items : List Node) : Node := mk .sequence items

/-- A node of a plain construct. -/
@[match_pattern] def plain (form : Form) (origin : Origin) (ps : List Node) : Node :=
  mk (.plain form origin) ps

/-- Is this part missing? -/
def isAbsent : Node → Bool
  | mk .absent _ => true
  | _ => false

/-- The nodes of a part that is a list; nothing for any other part. -/
def items : Node → List Node
  | mk .sequence ps => ps
  | _ => []

/-! ### Spans -/

/-- Put the spans of a node between those of its parts. -/
def placeSpans (lead : Nat) (own : List Span) (parts : List (List Span)) : List Span :=
  (parts.take lead).flatten ++ own ++ (parts.drop lead).flatten

mutual

/-- All spans of a tree, in the order in which they are visited. -/
def spans : Node → List Span
  | mk h ps => placeSpans h.lead h.spans (spansOfParts ps)

/-- The spans of each of a list of trees. -/
def spansOfParts : List Node → List (List Span)
  | [] => []
  | n :: ns => n.spans :: spansOfParts ns

end

end Node

/-- A program body with its statements and module declarations, and the interpreter that its first
line may name. -/
structure Module where
  span : Span
  body : List Node
  interpreter : Option String
deriving Inhabited

/-- All spans of a module, in the order in which they are visited. -/
def Module.spans (m : Module) : List Span :=
  m.span :: (Node.spansOfParts m.body).flatten

/-- A document: its path if known, its tree, and its comments. -/
structure Program where
  path : Option String
  module : Module
  comments : List Comment
deriving Inhabited

end HostProps
