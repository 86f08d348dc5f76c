/-!
# Operators

The operators of expressions, with the text each is written as and, for those that stand between
two operands, how tightly they bind.
-/

namespace HostProps

/-- The operators that stand before one operand. -/
inductive UnaryOperator where
  | minus | plus | not | complement | typeOf | void | delete
deriving DecidableEq, Inhabited, Repr

namespace UnaryOperator

def all : List UnaryOperator := [minus, plus, not, complement, typeOf, void, delete]

def text : UnaryOperator → String
  | minus => "-" | plus => "+" | not => "!" | complement => "~"
  | typeOf => "typeof" | void => "void" | delete => "delete"

def ofText? (s : String) : Option UnaryOperator := all.find? (·.text == s)

/-- The operators that are words need a blank before their operand. -/
def isWord (op : UnaryOperator) : Bool :=
  op == typeOf || op == void || op == delete

end UnaryOperator

/-- `++` and `--`. -/
inductive UpdateOperator where
  | increment | decrement
deriving DecidableEq, Inhabited, Repr

namespace UpdateOperator

def text : UpdateOperator → String
  | increment => "++" | decrement => "--"

def ofText? (s : String) : Option UpdateOperator :=
  [increment, decrement].find? (·.text == s)

end UpdateOperator

/-- The operators that stand between two operands. -/
inductive BinaryOperator where
  | equal | notEqual | strictEqual | strictNotEqual
  | less | lessEqual | greater | greaterEqual
  | shiftLeft | shiftRight | shiftRightUnsigned
  | add | subtract | multiply | divide | remainder
  | bitOr | bitXor | bitAnd
  | or | and | coalesce
  | within | instanceOf | power
deriving DecidableEq, Inhabited, Repr

namespace BinaryOperator

def all : List BinaryOperator :=
  [equal, notEqual, strictEqual, strictNotEqual, less, lessEqual, greater, greaterEqual,
    shiftLeft, shiftRight, shiftRightUnsigned, add, subtract, multiply, divide, remainder,
    bitOr, bitXor, bitAnd, or, and, coalesce, within, instanceOf, power]

def text : BinaryOperator → String
  | equal => "==" | notEqual => "!=" | strictEqual => "===" | strictNotEqual => "!=="
  | less => "<" | lessEqual => "<=" | greater => ">" | greaterEqual => ">="
  | shiftLeft => "<<" | shiftRight => ">>" | shiftRightUnsigned => ">>>"
  | add => "+" | subtract => "-" | multiply => "*" | divide => "/" | remainder => "%"
  | bitOr => "|" | bitXor => "^" | bitAnd => "&"
  | or => "||" | and => "&&" | coalesce => "??"
  | within => "in" | instanceOf => "instanceof" | power => "**"

def ofText? (s : String) : Option BinaryOperator := all.find? (·.text == s)

/-- How tightly an operator binds: of two, the higher takes its operands first. -/
def precedence : BinaryOperator → Nat
  | coalesce => 1
  | or => 1
  | and => 2
  | bitOr => 3
  | bitXor => 4
  | bitAnd => 5
  | equal | notEqual | strictEqual | strictNotEqual => 6
  | less | lessEqual | greater | greaterEqual | within | instanceOf => 7
  | shiftLeft | shiftRight | shiftRightUnsigned => 8
  | add | subtract => 9
  | multiply | divide | remainder => 10
  | power => 11

/-- The operators that may leave their right operand alone. -/
def isLogical (op : BinaryOperator) : Bool :=
  op == or || op == and || op == coalesce

end BinaryOperator

/-- The operators that assign to their left side. -/
inductive AssignmentOperator where
  | assign
  | with (op : BinaryOperator)
deriving DecidableEq, Inhabited, Repr

namespace AssignmentOperator

/-- The binary operators that have an assigning form. -/
def combined : List BinaryOperator :=
  [.add, .subtract, .multiply, .divide, .remainder, .shiftLeft, .shiftRight,
    .shiftRightUnsigned, .bitOr, .bitXor, .bitAnd, .power, .and, .or, .coalesce]

def all : List AssignmentOperator := assign :: combined.map .with

def text : AssignmentOperator → String
  | assign => "="
  | .with op => op.text ++ "="

def ofText? (s : String) : Option AssignmentOperator := all.find? (·.text == s)

end AssignmentOperator

end HostProps
