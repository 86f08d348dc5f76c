import HostProps.Number.Shortest
import HostProps.Syntax.Span
import HostProps.Text.Fault

/-!
# Tokens

A text is read token by token.  A word may be a name or a keyword, which depends on its place; a
symbol is a bracket, a mark or an operator.  Regular expressions and the texts of templates are not
tokens: only the parser knows where they can stand, and it reads them when it gets there.
-/

namespace HostProps

/-- The parts that a text is read in. -/
inductive Token where
  /-- A name or a keyword.  A word that starts with an escape is plain: it is a name, whatever other
  meaning its letters have. -/
  | word (name : String) (isPlain : Bool)
  | symbol (text : String)
  | string (value raw : String)
  | number (value : Double) (raw : String)
  | bigInt (value : Nat) (raw : String)
  /-- The text cannot be read from here on. -/
  | invalid (fault : Fault)
  /-- The end of the text. -/
  | finish
deriving DecidableEq, Inhabited, Repr

/-- How a token is called in messages. -/
def Token.shown : Token → String
  | word name _ => name
  | symbol text => text
  | string value raw => "string literal (" ++ value ++ ", " ++ raw ++ ")"
  | number value raw => "numeric literal (" ++ value.text ++ ", " ++ raw ++ ")"
  | bigInt value raw => "bigint literal (" ++ toString value ++ ", " ++ raw ++ ")"
  | invalid fault => fault.cause.message
  | finish => "<eof>"

/-- A token at its place. -/
structure Lexeme where
  token : Token
  span : Span
  /-- A line ends between the token before and this one. -/
  isAfterNewline : Bool
deriving DecidableEq, Inhabited, Repr

end HostProps
