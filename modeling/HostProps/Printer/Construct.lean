import HostProps.Printer.Literal
import HostProps.Printer.Rendering
import HostProps.Text.Cursor

/-!
# How each construct is written

`Head.printer` gives the text of a construct from the renderings of its parts.  Every construct
first writes the comments in front of it.  Of what a typed dialect adds, the flags are written.
-/

namespace HostProps

open Printer

/-! ### Comments that would cut off an argument -/

/-- Does a comment end its line? -/
def Comment.breaksLine (c : Comment) : Bool :=
  match c.kind with
  | .line => true
  | .block => c.text.toList.any endsLine

/-- Does an expression start with a comment that keeps it from standing right after a keyword?
`isMarked` tells whether any comment is in front of a position and `breaks` whether one that ends
its line is.  In front of an assignment, and of the `import` or `super` that is called, any comment
counts. -/
def Node.startsApart (isMarked breaks : Nat → Bool) : Node → Bool
  | mk h ps =>
    breaks (mk h ps).span.lo ||
    match h, ps with
    | .plain .call _, [callee, _] =>
      match callee.head with
      | .importKeyword s _ => isMarked s.lo
      | .plain .super o => isMarked o.span.lo
      | _ => callee.startsApart isMarked breaks
    | .plain .optionalCall _, [callee, _] => callee.startsApart isMarked breaks
    | .plain .member _, [object, _] => object.startsApart isMarked breaks
    | .plain .superMember o, _ => isMarked o.span.lo
    | .binary _ _, [left, _] => left.startsApart isMarked breaks
    | .plain .conditional _, [test, _, _] => test.startsApart isMarked breaks
    | .plain .sequenceExpression _, [mk .sequence (e :: _)] => e.startsApart isMarked breaks
    | .optionalChain _ _, [mk (.plain .member _) [object, _]] =>
      object.startsApart isMarked breaks
    | .optionalChain _ _, [mk (.plain .optionalCall _) [callee, _]] =>
      callee.startsApart isMarked breaks
    | .assignment s _, [target, _] =>
      isMarked s.lo ||
      match target with
      | mk (.plain .member _) [object, _] => object.startsApart isMarked breaks
      | mk (.plain .parenthesis _) [e] => e.startsApart isMarked breaks
      | mk (.optionalChain _ _) [mk (.plain .member _) [object, _]] =>
        object.startsApart isMarked breaks
      | mk (.optionalChain _ _) [mk (.plain .optionalCall _) [callee, _]] =>
        callee.startsApart isMarked breaks
      | _ => isMarked target.span.lo
    | _, _ => false

/-- Does an expression start with a comment that keeps it from standing right after a keyword? -/
def Page.keepsApart (n : Node) (p : Page) : Bool :=
  n.startsApart (fun position => p.leading.any (·.1 == position))
    (fun position => p.leading.any fun (at_, c) => at_ == position && c.breaksLine)

namespace Rendering

/-- Print the argument of a keyword.  It must start on the line of the keyword, so it is put into
parentheses if it starts with a comment that might keep it from that. -/
def keywordArgument (r : Rendering) : Printer := do
  let isApart := (← get).keepsApart r.node
  write (if isApart then "(" else " ")
  r.phrase
  Printer.when isApart (write ")")

/-! ### Functions, classes and bodies -/

/-- A list of parameters in parentheses; `parent` is the span of the function. -/
def parameters (parent : Span) (ps : Rendering) : Printer := do
  write "("
  list parent .commas phrase ps.items
  write ")"

/-- The parameters and the body of a function; without a body there is a semicolon. -/
def functionRest (parent : Span) (ps body : Rendering) : Printer := do
  parameters parent ps
  if body.isAbsent then write ";"
  else
    blank
    body.print

/-- Lines in braces. -/
def bracedLines (parent : Span) (print : Rendering → Printer) (items : List Rendering) :
    Printer := do
  write "\x7b"
  if items.isEmpty then newline else list parent .lines print items
  write "\x7d"

/-- The superclass and the members of a class. -/
def classRest (parent : Span) (members superClass : Rendering) : Printer := do
  superClass.unlessAbsent fun c => do
    write " extends "
    c.phrase
  blank
  bracedLines parent print members.items

/-- Arguments in parentheses. -/
def arguments (parent : Span) (args : Rendering) : Printer := do
  write "("
  list parent .commas print args.items
  write ")"

/-- Is the last item of a list a hole? -/
def endsInHole (r : Rendering) : Bool := r.items.getLast?.any isAbsent

/-- Is an expression a number that a dot after it would be taken for a part of? -/
def swallowsDot (r : Rendering) : Bool :=
  match r.node with
  | .mk (.number _ value raw) _ =>
    match raw with
    | some text =>
      let cs := text.toList.filter (· ≠ '_')
      cs.all Char.isDigit && !(cs.length ≥ 2 && cs.head? == some '0')
    | none => !value.text.toList.contains '.'
  | _ => false

/-- A property that is not in brackets follows a dot. -/
def isDotted (property : Rendering) : Bool :=
  match property.node with
  | .plain .computed _ _ => false
  | _ => true

/-- Print what an access is made to: not the comments after a number or a new object. -/
def accessed (r : Rendering) : Printer :=
  match r.node with
  | .mk (.number _ _ _) _ => r.print
  | _ => r.phrase

/-- Names in braces. -/
def specifiers (parent : Span) (items : List Rendering) : Printer := do
  write "\x7b"
  if items.isEmpty then blank else list parent .padded print items
  write "\x7d"

/-- Import attributes. -/
def attributes (r : Rendering) : Printer :=
  r.unlessAbsent fun a => do
    write " with "
    a.print

/-- Two names with a word between them, or the first alone. -/
def renamed (first second : Rendering) : Printer := do
  first.print
  second.unlessAbsent fun r => do
    write " as "
    r.print

/-- Attributes of an element, with a blank before each. -/
def elementAttributes : List Rendering → Printer
  | [] => pure ()
  | r :: rest => do
    blank
    match r.node with
    | .mk (.spread _) _ => do
      write "\x7b"
      r.print
      write "\x7d"
    | _ => r.print
    elementAttributes rest

/-- The texts and expressions of a template, alternating. -/
def templateItems (text : Rendering → Printer) : List Rendering → List Rendering → Printer
  | quasi :: quasis, e :: es => do
    text quasi
    write "$\x7b"
    e.phrase
    write "\x7d"
    templateItems text quasis es
  | quasis, _ => quasis.forM text

/-- A template, given how its texts are printed. -/
def templateWith (text : Rendering → Printer) (quasis es : Rendering) : Printer := do
  write "\x60"
  templateItems text quasis.items es.items
  write "\x60"

/-- The text of a template as it was written. -/
def rawText (r : Rendering) : Printer :=
  match r.node.head with
  | .templateElement _ _ _ raw => write raw
  | _ => pure ()

/-- The template after a tag: the function it is given to sees the text as it was written. -/
def afterTag (r : Rendering) : Printer :=
  match r.parts with
  | [es, quasis] => do
    leading r.span
    templateWith rawText quasis es
  | _ => pure ()

/-- The left operand of an operator.  One that has an operator too is the start of the same chain of
operands, and so has no comments of its own. -/
def leftOperand : Rendering → Printer
  | mk (.mk (.binary _ op) _) _ [left, right] => do
    leftOperand left
    write (" " ++ op.text ++ " ")
    right.phrase
  | r => r.phrase

/-- What a specifier of an import is. -/
inductive SpecifierKind where
  | default | namespaced | named
deriving DecidableEq

def specifierKind (r : Rendering) : SpecifierKind :=
  match r.node with
  | .plain .importDefault _ _ => .default
  | .plain .importNamespace _ _ | .plain .exportNamespace _ _ => .namespaced
  | _ => .named

/-- Print all items with commas between them. -/
def commaSeparated : List Rendering → Printer
  | [] => pure ()
  | [r] => r.print
  | r :: rest => do
    r.print
    write ", "
    commaSeparated rest

end Rendering

open Rendering

/-! ### Constructs that hold nothing but their place -/

/-- A statement, without the end of its line. -/
def Form.statementPrinter (form : Form) (s : Span) : List Rendering → Printer := fun parts =>
  match form, parts with
  | .block, [statements] => do
    write "\x7b"
    newlineIfLeadingLast s
    list s .lines statement statements.items
    leadingLast s
    write "\x7d"
  | .empty, _ => write ";"
  | .debugger, _ => write "debugger;"
  | .withStatement, [target, body] => do
    write "with("
    target.phrase
    write ")"
    body.statement
  | .returnStatement, [argument] => do
    write "return"
    argument.unlessAbsent keywordArgument
    write ";"
  | .labeled, [label, body] => do
    label.print
    write ": "
    body.statement
  | .breakStatement, [label] => do
    write "break"
    label.unlessAbsent fun l => do
      blank
      l.print
    write ";"
  | .continueStatement, [label] => do
    write "continue"
    label.unlessAbsent fun l => do
      blank
      l.print
    write ";"
  | .ifStatement, [test, consequent, alternate] => do
    write "if ("
    test.phrase
    write ") "
    consequent.statement
    alternate.unlessAbsent fun a => do
      Printer.when consequent.isBlock blank
      write "else "
      a.statement
  | .switchStatement, [discriminant, cases] => do
    write "switch("
    discriminant.phrase
    write ")"
    bracedLines s print cases.items
  | .switchCase, [test, statements] => do
    if test.isAbsent then write "default"
    else
      write "case "
      test.phrase
    write ":"
    list s .openLines statement statements.items
  | .throwStatement, [argument] => do
    write "throw"
    argument.keywordArgument
    write ";"
  | .tryStatement, [body, handler, finalizer] => do
    write "try "
    body.print
    handler.unlessAbsent fun h => do
      blank
      h.print
    finalizer.unlessAbsent fun f => do
      write " finally"
      f.print
  | .catchClause, [param, body] => do
    write "catch "
    param.unlessAbsent fun p => do
      write "("
      p.phrase
      write ")"
    blank
    body.print
  | .whileStatement, [test, body] => do
    write "while("
    test.phrase
    write ")"
    body.statement
  | .doWhile, [test, body] => do
    write "do "
    body.statement
    write "while ("
    test.phrase
    write ")"
  | .forStatement, [init, test, update, body] => do
    write "for("
    init.unlessAbsent loopHead
    write ";"
    test.unlessAbsent fun t => do
      blank
      t.phrase
    write ";"
    update.unlessAbsent fun u => do
      blank
      u.phrase
    write ")"
    body.statement
  | .forIn, [left, right, body] => do
    write "for("
    left.loopHead
    write " in "
    right.phrase
    write ")"
    body.statement
  | .expressionStatement, [e] => do
    e.phrase
    write ";"
  | .declarator, [pattern, init] => do
    pattern.phrase
    init.unlessAbsent fun i => do
      write " = "
      i.phrase
  | _, _ => pure ()

/-- An expression, a property or a pattern. -/
def Form.expressionPrinter (form : Form) (s : Span) : List Rendering → Printer := fun parts =>
  match form, parts with
  | .this, _ => write "this"
  | .super, _ => write "super"
  | .null, _ => write "null"
  | .array, [elements] => do
    write "["
    list s { ListStyle.commaLines with endsInComma := elements.endsInHole } print elements.items
    write "]"
  | .object, [properties] => do
    write "\x7b"
    newlineIfLeadingLast s
    list s .commaLines print properties.items
    write "\x7d"
  | .call, [callee, args] => do
    callee.phrase
    args.arguments s
  | .optionalCall, [callee, args] => do
    callee.phrase
    args.arguments s
  | .new, [callee, args] => do
    write "new "
    callee.phrase
    args.unlessAbsent (arguments s)
  | .member, [target, property] => do
    target.accessed
    if property.isDotted then
      Printer.when target.swallowsDot (write ".")
      write "."
    property.print
  | .superMember, [target, property] => do
    target.print
    Printer.when property.isDotted (write ".")
    property.print
  | .sequenceExpression, [es] =>
    match es.items with
    | [] => pure ()
    | e :: rest => do
      e.phrase
      rest.forM fun r => do
        write ", "
        r.phrase
  | .conditional, [test, consequent, alternate] => do
    test.phrase
    write " ? "
    consequent.phrase
    write " : "
    alternate.phrase
  | .await, [argument] => do
    write "await "
    argument.phrase
  | .parenthesis, [e] => do
    write "("
    e.phrase
    write ")"
  | .template, [es, quasis] => templateWith print quasis es
  | .taggedTemplate, [tag, text] => do
    tag.phrase
    text.afterTag
  | .computed, [e] => do
    write "["
    e.phrase
    write "]"
  | .keyValue, [key, value] => do
    key.print
    write ": "
    value.phrase
  | .assignmentProperty, [key, value] => do
    key.print
    write "="
    value.phrase
  | .getter, [key, body] => do
    write "get "
    key.print
    write " () "
    body.print
  | .setter, [key, param, body] => do
    write "set "
    key.print
    write " ("
    param.phrase
    write ")"
    body.print
  | .objectPattern, [properties] => do
    write "\x7b"
    list s .padded print properties.items
    write "\x7d"
  | .arrayPattern, [elements] => do
    write "["
    list s { ListStyle.commas with endsInComma := elements.endsInHole } phrase elements.items
    write "]"
  | .assignmentPattern, [pattern, value] => do
    pattern.phrase
    write " = "
    value.phrase
  | .keyValuePattern, [key, pattern] => do
    key.print
    write ": "
    pattern.phrase
  | .shorthandPattern, [name, value] => do
    name.print
    value.unlessAbsent fun v => do
      write " = "
      v.phrase
  | .parameter, [_, pattern] => pattern.phrase
  | .decorator, [e] => do
    write "@"
    e.phrase
    newline
  | .staticBlock, [body] => do
    write "static"
    body.print
  | .constructor, [_, ps, body] => do
    write "constructor"
    parameters s ps
    if body.isAbsent then write ";" else body.print
  | _, _ => pure ()

/-- A declaration about modules, without the end of its line. -/
def Form.modulePrinter (form : Form) (o : Origin) : List Rendering → Printer := fun parts =>
  let typeWord := o.words [("typeOnly", "type "), ("isTypeOnly", "type ")]
  match form, parts with
  | .exportDeclaration, [d] => do
    write "export "
    d.declaration
  | .exportDefaultDeclaration, [d] => do
    write "export default "
    d.print
  | .exportDefaultExpression, [e] => do
    write "export default "
    e.phrase
    write ";"
  | .exportNamed, [names, source, attrs] => do
    let (spaces, named) := names.items.partition (·.specifierKind = .namespaced)
    write ("export " ++ typeWord)
    commaSeparated spaces
    Printer.when (!spaces.isEmpty && !named.isEmpty) (write ", ")
    Printer.when (spaces.isEmpty || !named.isEmpty) (specifiers o.span named)
    source.unlessAbsent fun r => do
      write " from "
      r.print
      attrs.attributes
    write ";"
  | .exportAll, [source, attrs] => do
    write ("export " ++ typeWord ++ "* from ")
    source.print
    attrs.attributes
    write ";"
  | .importDefault, [localName] => localName.print
  | .importNamespace, [localName] => do
    write "* as "
    localName.print
  | .importNamed, [localName, imported] => do
    write typeWord
    if imported.isAbsent then localName.print else renamed imported localName
  | .exportSpecifier, [localName, exported] => do
    write typeWord
    renamed localName exported
  | .exportNamespace, [name] => do
    write "* as "
    name.print
  | .exportDefaultSpecifier, [name] => name.print
  | _, _ => pure ()

/-- An element or a part of one. -/
def Form.elementPrinter (form : Form) (s : Span) : List Rendering → Printer := fun parts =>
  match form, parts with
  | .jsxElement, [opening, children, closing] => do
    opening.print
    list s .plain print children.items
    closing.unlessAbsent print
  | .jsxClosing, [name] => do
    write "</"
    name.print
    write ">"
  | .jsxFragment, [opening, children, closing] => do
    opening.print
    list s .plain print children.items
    closing.print
  | .jsxOpeningFragment, _ => write "<>"
  | .jsxClosingFragment, _ => write "</>"
  | .jsxAttribute, [name, value] => do
    name.print
    value.unlessAbsent fun v => do
      write "="
      v.print
  | .jsxContainer, [e] => do
    write "\x7b"
    e.phrase
    write "\x7d"
  | .jsxSpreadChild, [e] => do
    write "\x7b..."
    e.phrase
    write "\x7d"
  | .jsxMember, [target, property] => do
    target.print
    write "."
    property.print
  | .jsxNamespacedName, [name, rest] => do
    name.print
    write ":"
    rest.print
  | _, _ => pure ()

namespace Form

/-- What a construct belongs to. -/
inductive Kind where
  | statement | expression | moduleDeclaration | element

/-- What a construct belongs to: a declarator, a case and a handler to statements, keys, properties
and patterns to expressions. -/
def kind : Form → Kind
  | block | empty | debugger | withStatement | returnStatement | labeled | breakStatement
  | continueStatement | ifStatement | switchStatement | switchCase | throwStatement
  | tryStatement | catchClause | whileStatement | doWhile | forStatement | forIn
  | expressionStatement | declarator => .statement
  | exportDeclaration | exportDefaultDeclaration | exportDefaultExpression | exportNamed
  | exportAll | importDefault | importNamespace | importNamed | exportSpecifier
  | exportNamespace | exportDefaultSpecifier => .moduleDeclaration
  | jsxElement | jsxClosing | jsxFragment | jsxOpeningFragment | jsxClosingFragment
  | jsxAttribute | jsxContainer | jsxEmpty | jsxSpreadChild | jsxMember | jsxNamespacedName =>
    .element
  | _ => .expression

/-- A construct that holds nothing but its place. -/
def printer (form : Form) (o : Origin) (parts : List Rendering) : Printer := do
  match form.kind with
  | .statement => form.statementPrinter o.span parts
  | .expression =>
    form.expressionPrinter o.span parts
    write (o.words [("optional", "?")])
  | .moduleDeclaration => form.modulePrinter o parts
  | .element => form.elementPrinter o.span parts

/-- The constructs that do not write the comments in front of them: jumps, brackets, and what starts
with something that does. -/
def passesComments : Form → Bool
  | breakStatement | continueStatement | computed | importNamespace | importDefault
  | jsxOpeningFragment | jsxClosingFragment => true
  | _ => false

end Form

/-! ### All constructs -/

/-- The words before a function that say what it is. -/
def functionWords (isAsync isGenerator : Bool) : String :=
  (if isAsync then "async " else "") ++ "function" ++ (if isGenerator then "*" else "")

/-- The words before a method that say what it is. -/
def methodWords (isAsync isGenerator : Bool) : String :=
  (if isAsync then "async " else "") ++ (if isGenerator then "*" else "")

/-- A construct, without the comments in front of it. -/
def Head.textPrinter (h : Head) (s : Span) (parts : List Rendering) : Printer :=
  match h, parts with
  | .plain form o, _ => form.printer o parts
  | .reference o text, _ => write (text ++ o.words [("optional", "?")])
  | .binding o text, _ => write (text ++ o.words [("optional", "?")])
  | .name _ text, _ => write text
  | .privateName _ text, _ => write ("#" ++ text)
  | .string _ value raw, _ => write (raw.getD (Literal.string value))
  | .number _ value raw, _ => write (raw.getD value.text)
  | .bigInt _ value raw, _ => write (raw.getD (toString value ++ "n"))
  | .boolean _ value, _ => write (if value then "true" else "false")
  | .regExp _ pattern flags, _ => write ("/" ++ pattern ++ "/" ++ flags)
  | .templateElement _ _ _ raw, _ => write (Literal.templateText raw)
  | .argument none, [e] => e.phrase
  | .argument (some _), [e] => do
    write "..."
    e.phrase
  | .spread _, [e] => do
    write "..."
    e.phrase
  | .rest _ _, [pattern] => do
    write "..."
    pattern.phrase
  | .variableDeclaration o kind, [declarators] => do
    write (o.words [("declare", "declare ")])
    write (match kind with | .var => "var " | .let => "let " | .const => "const ")
    list s .commas print declarators.items
  | .function .method _ isAsync isGenerator, [key, ps, _, body] => do
    write (methodWords isAsync isGenerator)
    key.print
    blank
    functionRest s ps body
  | .function _ o isAsync isGenerator, [label, ps, _, body] => do
    write (o.words [("declare", "declare ")])
    write (functionWords isAsync isGenerator)
    label.unlessAbsent fun n => do
      blank
      n.print
    functionRest s ps body
  | .function .classMember _ _ _, [ps, _, body] => functionRest s ps body
  | .arrow o isAsync, [ps, body] => do
    Printer.when isAsync (write "async ")
    write (o.words [("generator", "*")])
    parameters s ps
    write "=>"
    if body.isBlock then body.print else indented body.phrase
  | .classDefinition _ o, [label, decorators, members, superClass] => do
    write (o.words [("declare", "declare ")])
    decorators.items.forM print
    write (o.words [("isAbstract", "abstract ")])
    write "class"
    label.unlessAbsent fun n => do
      blank
      n.print
    classRest s members superClass
  | .classMethod _ o kind isStatic, [key, body] => do
    leading key.span
    match body.parts with
    | [_, decorators, _] => decorators.items.forM print
    | _ => pure ()
    Printer.when isStatic (write "static ")
    write (o.words [("isAbstract", "abstract "), ("isOverride", "override ")])
    let (isAsync, isGenerator) := match body.node.head with
      | .function _ _ isAsync isGenerator => (isAsync, isGenerator)
      | _ => (false, false)
    write (match kind with
      | .method => methodWords isAsync isGenerator
      | .getter => "get "
      | .setter => "set ")
    key.print
    write (o.words [("isOptional", "?")])
    body.print
  | .classProperty _ o isStatic, [key, value, decorators] => do
    decorators.items.forM print
    write (o.words [("declare", "declare ")])
    Printer.when isStatic (write "static ")
    write (o.words [("isAbstract", "abstract "), ("isOverride", "override "),
      ("readonly", "readonly ")])
    key.print
    write (o.words [("isOptional", "?"), ("definite", "!")])
    value.unlessAbsent fun v => do
      write " = "
      v.phrase
    write ";"
  | .unary _ op, [operand] => do
    write op.text
    let repeats := match operand.node with
      | .mk (.unary _ inner) _ =>
        (op == .plus && inner == .plus) || (op == .minus && inner == .minus)
      | .mk (.update _ inner true) _ =>
        (op == .plus && inner == .increment) || (op == .minus && inner == .decrement)
      | .mk (.number _ value _) _ => op == .minus && value.isNegative
      | _ => false
    Printer.when (op.isWord || repeats) blank
    operand.phrase
  | .update _ op true, [operand] => do
    write op.text
    operand.phrase
  | .update _ op false, [operand] => do
    operand.phrase
    write op.text
  | .binary _ op, [left, right] => do
    left.leftOperand
    write (" " ++ op.text ++ " ")
    right.phrase
  | .assignment _ op, [target, value] => do
    target.phrase
    write (" " ++ op.text ++ " ")
    value.phrase
  | .yield _ delegate, [e] => do
    write (if delegate then "yield*" else "yield")
    e.unlessAbsent keywordArgument
  | .metaProperty _ text, _ => write text
  | .optionalChain _ isOptional, [base] =>
    let mark := Printer.when isOptional (write "?.")
    match base.node, base.parts with
    | .plain .member _ _, [target, property] => do
      target.phrase
      mark
      Printer.when (property.isDotted && !isOptional) (write ".")
      property.print
    | _, [callee, args] => do
      callee.phrase
      mark
      args.arguments s
    | _, _ => base.print
  | .importKeyword _ phase, _ =>
    write (if phase = "evaluation" then "import" else "import." ++ phase)
  | .importDeclaration o phase, [names, source, attrs] => do
    let items := names.items
    let (named, others) := items.partition (·.specifierKind = .named)
    write ("import " ++ o.words [("typeOnly", "type ")])
    Printer.when (phase ≠ "evaluation") (write (phase ++ " "))
    commaSeparated others
    Printer.when (!others.isEmpty && !named.isEmpty) (write ", ")
    Printer.when (!named.isEmpty) (specifiers s named)
    Printer.when (!items.isEmpty) (write " from ")
    source.print
    attrs.attributes
    write ";"
  | .forOf _ isAwait, [left, right, body] => do
    write (if isAwait then "for await (" else "for (")
    left.loopHead
    write " of "
    right.phrase
    write ")"
    body.statement
  | .jsxOpening _ selfClosing, [tag, attrs] => do
    write "<"
    tag.print
    elementAttributes attrs.items
    write (if selfClosing then "/>" else ">")
  | .jsxText _ _ raw, _ => write raw
  | _, _ => pure ()

/-- Where the comments in front of a construct are, if it writes them. -/
def Head.commentSpan (h : Head) (s : Span) : Span :=
  match h with
  | .plain form _ => if form.passesComments then Span.dummy else s
  | .argument dots => dots.getD Span.dummy
  | .absent | .sequence | .templateElement _ _ _ _ | .jsxText _ _ _
  | .function .classMember _ _ _ => Span.dummy
  | _ => s

/-- A construct with the comments in front of it. -/
def Head.printer (h : Head) (s : Span) (parts : List Rendering) : Printer := do
  leading (h.commentSpan s)
  h.textPrinter s parts

/-! ### Trees -/

mutual

/-- The rendering of a tree. -/
def Node.rendering : Node → Rendering
  | mk h ps =>
    let parts := renderings ps
    .mk (mk h ps) (h.printer (mk h ps).span parts) parts

/-- The renderings of some trees. -/
def Node.renderings : List Node → List Rendering
  | [] => []
  | n :: ns => n.rendering :: renderings ns

end

/-- Print a module. -/
def Module.printer (m : Module) : Printer := do
  leading m.span
  optional m.interpreter fun name => do
    write ("#!" ++ name)
    newline
  (Node.renderings m.body).forM moduleItem
  trailing m.span

/-- The text of a document. -/
def Program.print (p : Program) : String :=
  (p.module.printer.run (Page.blank p.anchors)).2.text

end HostProps
