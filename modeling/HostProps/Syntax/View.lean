import HostProps.Syntax.Node

/-!
# Looking at trees

What the pass needs to know about expressions and keys.  Parentheses mean nothing to it, so most
questions are asked after `Node.unwrapParens`.
-/

namespace HostProps

namespace Node

/-- The expression inside of any number of parentheses. -/
def unwrapParens : Node → Node
  | mk (.plain .parenthesis _) [e] => unwrapParens e
  | n => n

mutual

/-- The span of a node; that of a node without one of its own goes from its first part to its
last. -/
def span : Node → Span
  | mk h ps =>
    match h, h.spans with
    | .spread dots, _ => dots.through (spanOfParts ps)
    | .argument (some dots), _ => dots.through (spanOfParts ps)
    | _, s :: _ => s
    | _, [] => spanOfParts ps

/-- The span from the first of some nodes to the last; a dummy if there are none. -/
def spanOfParts : List Node → Span
  | [] => Span.dummy
  | [n] => n.span
  | n :: ns => n.span.through (spanOfParts ns)

end

/-- The value of a string literal, through parentheses. -/
def string? (n : Node) : Option String :=
  match n.unwrapParens with
  | mk (.string _ value _) _ => some value
  | _ => none

/-- The name of a key that is a name or a string. -/
def staticKey? : Node → Option String
  | mk (.name _ text) _ => some text
  | mk (.string _ value _) _ => some value
  | _ => none

/-- The variable that a pattern consists of. -/
def binding? : Node → Option String
  | mk (.binding _ name) _ => some name
  | _ => none

/-- The variable that an expression consists of. -/
def reference? : Node → Option String
  | mk (.reference _ name) _ => some name
  | _ => none

/-- The expression of the first of some arguments, unless it is spread. -/
def firstArgument? : List Node → Option Node
  | mk (.argument none) [e] :: _ => some e
  | _ => none

/-- Is this declaration about modules, rather than a statement? -/
def isModuleDeclaration : Node → Bool
  | mk (.importDeclaration _ _) _ => true
  | plain .exportDeclaration _ _ | plain .exportDefaultDeclaration _ _
  | plain .exportDefaultExpression _ _ | plain .exportNamed _ _ | plain .exportAll _ _ => true
  | _ => false

/-- The declarators of a statement that declares variables. -/
def declarators? : Node → Option (List Node)
  | mk (.variableDeclaration _ _) [ds] => some ds.items
  | _ => none

/-- The pattern of a declarator and its initialiser, if it has one. -/
def declarator? : Node → Option (Node × Option Node)
  | plain .declarator _ [pattern, init] =>
    some (pattern, if init.isAbsent then none else some init)
  | _ => none

end Node

end HostProps
