import HostProps.Parser.Name

/-!
# Expressions that turn out to be patterns

What stands before `=` or `=>` is read as an expression first, and then seen as a pattern: arrays
and objects become patterns, uses of variables become variables that are bound, and assignments
become defaults.  `Node.asPattern` is that view, and `Node.patternFaults` tells what of an
expression is no pattern.
-/

namespace HostProps

namespace Node

/-- The variable that a use of it turns into. -/
def asBinding : Node → Node
  | mk (.reference o name) _ => mk (.binding o name) []
  | n => n

/-- A variable in an object pattern is a property of its own name. -/
def asPatternProperty : Node → Node
  | mk (.binding o name) _ => plain .shorthandPattern o [mk (.binding o name) [], absent]
  | n => n

/-- The pattern after dots, as a rest that starts at the dots or after them. -/
def rest (isFromDots : Bool) (dots : Span) (pattern : Node) : Node :=
  let s := if isFromDots then dots.through pattern.span else pattern.span
  mk (.rest (.written s) dots) [pattern]

/-- The elements of a pattern without the holes at its end. -/
def dropHoles (items : List Node) : List Node := (items.reverse.dropWhile isAbsent).reverse

mutual

/-- An expression, an element or a property seen as a pattern. -/
def asPattern : Node → Node
  | mk h ps =>
    match h, asPatterns ps with
    | .reference o name, _ => mk (.binding o name) []
    | .sequence, patterns => list patterns
    | .plain .array o, patterns =>
      plain .arrayPattern o (patterns.map fun p => list (dropHoles p.items))
    | .plain .object o, patterns =>
      plain .objectPattern o (patterns.map fun p => list (p.items.map asPatternProperty))
    | .plain .keyValue o, patterns => plain .keyValuePattern o patterns
    | .plain .assignmentProperty o, _ => plain .shorthandPattern o (asBindingFirst ps)
    | .assignment s .assign, _ => plain .assignmentPattern (.written s) ps
    | .argument none, [pattern] => pattern
    | .argument (some dots), [pattern] => rest false dots pattern
    | .spread dots, [pattern] => rest true dots pattern
    | h, _ => mk h ps

/-- Some expressions seen as patterns. -/
def asPatterns : List Node → List Node
  | [] => []
  | n :: ns => n.asPattern :: asPatterns ns

/-- The key of a property with a default is bound, its value is not. -/
def asBindingFirst : List Node → List Node
  | [] => []
  | n :: ns => n.asBinding :: ns

end

/-- A place that a value can be assigned to. -/
def isAssignable : Node → Bool
  | mk (.reference _ name) _ => !isUndeclarable name
  | plain .member _ _ | plain .superMember _ _ => true
  | mk (.plain .parenthesis _) [e] => e.isAssignable
  | _ => false

/-- An expression that is written like a place to assign to. -/
def isTarget : Node → Bool
  | mk (.reference _ _) _ | plain .member _ _ | plain .superMember _ _ | plain .parenthesis _ _
  | mk (.optionalChain _ _) _ => true
  | _ => false

/-- Is an element or a property spread? -/
def isSpread : Node → Bool
  | mk (.spread _) _ | mk (.argument (some _)) _ => true
  | _ => false

/-- Only the last of some elements may be a rest. -/
def restFaults : List Node → List Fault
  | n :: m :: ns =>
    (if n.isSpread then [⟨.restNotLast, n.span.lo⟩] else []) ++ restFaults (m :: ns)
  | _ => []

mutual

/-- What of an expression is no pattern.  A pattern that declares variables consists of them, any
other may also assign to members, and take properties by any name. -/
def patternFaults (declares isProperty : Bool) : Node → List Fault
  | mk h ps =>
    let areProperties := match h with
      | .plain .object _ => true
      | .sequence => isProperty
      | _ => false
    let inner := patternFaultsOf declares areProperties ps
    match h with
    | .absent | .assignment _ .assign | .plain .assignmentProperty _ => []
    | .reference _ name =>
      if isUndeclarable name && (declares || !isProperty) then
        [⟨.reservedBinding, (mk h ps).span.lo⟩]
      else []
    | .sequence => restFaults ps ++ inner.flatten
    | .plain .array _ | .plain .object _ | .argument _ | .spread _ => inner.flatten
    | .plain .keyValue _ => inner.getLast?.getD []
    | _ =>
      if declares then [⟨.notPattern, (mk h ps).span.lo⟩]
      else if (mk h ps).isAssignable then []
      else [⟨.notAssignable, (mk h ps).span.lo⟩]

/-- What of some expressions is no pattern. -/
def patternFaultsOf (declares areProperties : Bool) : List Node → List (List Fault)
  | [] => []
  | n :: ns => n.patternFaults declares areProperties :: patternFaultsOf declares areProperties ns

end

mutual

/-- The first property with a default, which only patterns have, that was left in an expression.
Members and functions are not looked into. -/
def strayDefault? : Node → Option Span
  | mk h ps =>
    match h with
    | .plain .assignmentProperty o => some o.span
    | .plain .block _ | .plain .member _ | .function _ _ _ _ | .arrow _ _ => none
    | _ => strayDefaultIn? ps

def strayDefaultIn? : List Node → Option Span
  | [] => none
  | n :: ns =>
    match n.strayDefault? with
    | some s => some s
    | none => strayDefaultIn? ns

end

end Node

namespace Parser

/-- See an expression as a pattern. -/
def toPattern (declares : Bool) (e : Node) : Parser Node := do
  (e.patternFaults declares false).forM fun f => report f.cause f.position
  return e.asPattern

/-- Report a property with a default that is not part of a pattern. -/
def withoutDefaults (e : Node) : Parser Node := do
  match e.strayDefault? with
  | some s => report .nameWithValueInObject s.lo
  | none => pure ()
  return e

/-- What the values of a loop are assigned to: any pattern, or a place. -/
def toLoopTarget (e : Node) : Parser Node := do
  match e.head with
  | .plain .array _ | .plain .object _ => toPattern false e
  | _ =>
    reportIf (!e.isAssignable) .notAssignable e.span.lo
    return e.asBinding

/-- What is assigned to: any pattern for a plain assignment, and a place otherwise. -/
def toTarget (op : AssignmentOperator) (e : Node) : Parser Node := do
  match op, e.head with
  | .assign, .plain .array _ | .assign, .plain .object _ => toPattern false e
  | _, _ =>
    reportIf (!e.isAssignable) .notAssignable e.span.lo
    unless e.isTarget do fail .targetInvalid e.span.lo
    return e.asBinding

end Parser

end HostProps
