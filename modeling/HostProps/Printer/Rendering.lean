import HostProps.Printer.Page
import HostProps.Syntax.View

/-!
# Renderings

A tree is printed from the inside out: the rendering of a node holds what prints it, made from the
renderings of its parts.  How a part is printed depends on its place: a statement ends its line, and
the comments after an expression are written before whatever follows it.
-/

namespace HostProps

/-- A node with what prints it and the renderings of its parts. -/
inductive Rendering where
  | mk (node : Node) (print : Printer) (parts : List Rendering)

namespace Rendering

def node : Rendering → Node
  | mk n _ _ => n

def print : Rendering → Printer
  | mk _ p _ => p

def parts : Rendering → List Rendering
  | mk _ _ ps => ps

def span (r : Rendering) : Span := r.node.span

def isAbsent (r : Rendering) : Bool := r.node.isAbsent

/-- The renderings of the nodes of a part that is a list. -/
def items (r : Rendering) : List Rendering :=
  match r.node with
  | .mk .sequence _ => r.parts
  | _ => []

/-- Print an expression or a pattern, and the comments after it. -/
def phrase (r : Rendering) : Printer := do
  r.print
  Printer.trailing r.span

/-- Print a part unless it is missing. -/
def unlessAbsent (r : Rendering) (print : Rendering → Printer) : Printer :=
  if r.isAbsent then pure () else print r

/-- Is a statement a block? -/
def isBlock (r : Rendering) : Bool :=
  match r.node with
  | .plain .block _ _ => true
  | _ => false

/-- Does a node declare variables? -/
def isVariableDeclaration (r : Rendering) : Bool :=
  match r.node with
  | .mk (.variableDeclaration _ _) _ => true
  | _ => false

/-- Print a declaration; one of variables gets a semicolon. -/
def declaration (r : Rendering) : Printer := do
  r.print
  Printer.when r.isVariableDeclaration (Printer.write ";")

/-- Print a statement and end its line; a block does not end it. -/
def statement (r : Rendering) : Printer :=
  if r.isBlock then r.print
  else do
    r.declaration
    Printer.trailing r.span
    Printer.newline

/-- Print a statement or module declaration of the body of a module. -/
def moduleItem (r : Rendering) : Printer := do
  Printer.leading r.span
  if r.node.isModuleDeclaration then
    r.print
    Printer.trailing r.span
    Printer.newline
  else r.statement
  Printer.trailing r.span

/-- Print what stands at the left of `in` or `of`, or first in the head of a `for`. -/
def loopHead (r : Rendering) : Printer :=
  if r.isVariableDeclaration then r.print else r.phrase

/-! ### Lists -/

/-- How a list is laid out. -/
structure ListStyle where
  /-- Each item is on a line of its own. -/
  isMultiLine : Bool
  /-- What follows the items on lines is on a new line. -/
  isClosed : Bool
  /-- A comma and, on one line, a blank are between items; else nothing is. -/
  hasCommas : Bool
  /-- On one line, a blank is before the first and after the last item. -/
  isPadded : Bool
  /-- A comma and a blank are after the last item too. -/
  endsInComma : Bool

namespace ListStyle

/-- Statements of a block, members of a class and cases of a `switch`. -/
def lines : ListStyle := ⟨true, true, false, false, false⟩

/-- Statements of a case, which end their lines themselves. -/
def openLines : ListStyle := ⟨true, false, false, false, false⟩

/-- Properties and elements of literals. -/
def commaLines : ListStyle := ⟨true, true, true, false, false⟩

/-- Arguments, parameters, declarators and elements of patterns. -/
def commas : ListStyle := ⟨false, false, true, false, false⟩

/-- Properties of patterns and names in imports and exports. -/
def padded : ListStyle := ⟨false, false, true, true, false⟩

/-- Children of elements. -/
def plain : ListStyle := ⟨false, false, false, false, false⟩

end ListStyle

/-- Comments in front of the last character of an item that ends before the construct around. -/
def leadingLastWithin (parent : Span) (style : ListStyle) (item : Span) : Printer :=
  Printer.when (style.hasCommas && item.hi != parent.hi) (Printer.leadingLast item)

/-- Print the items after the first one, which ended at `previous`. -/
def furtherItems (parent : Span) (style : ListStyle) (print : Rendering → Printer)
    (previous : Span) : List Rendering → Printer
  | [] => do
    Printer.when style.endsInComma (Printer.write ", ")
    leadingLastWithin parent style previous
  | r :: rest => do
    leadingLastWithin parent style previous
    Printer.when style.hasCommas (Printer.write ",")
    if style.isMultiLine then Printer.newline
    else Printer.when style.hasCommas Printer.blank
    print r
    furtherItems parent style print r.span rest

/-- Print a list that is not empty; nothing is printed for one that is. -/
def list (parent : Span) (style : ListStyle) (print : Rendering → Printer) :
    List Rendering → Printer
  | [] => pure ()
  | r :: rest => do
    let all : Printer := do
      print r
      furtherItems parent style print r.span rest
    if style.isMultiLine then
      Printer.newline
      Printer.indented all
      Printer.when style.isClosed Printer.newline
    else
      Printer.when style.isPadded Printer.blank
      all
      Printer.when style.isPadded Printer.blank

end Rendering

end HostProps
