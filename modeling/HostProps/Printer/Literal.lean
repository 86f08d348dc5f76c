import HostProps.Number.Shortest

/-!
# Literals without a text of their own

How a string is written that was generated, not read: in double quotes, or in single ones if it
holds more double quotes than single ones.  Characters that would end the line or are invisible are
escaped, tabs and other text are not.
-/

namespace HostProps

namespace Literal

/-- The quote that a string is put into. -/
def quoteOf (cs : List Char) : Char :=
  if cs.count '\'' < cs.count '"' then '\'' else '"'

/-- A hexadecimal escape with at least two digits. -/
def hexEscape (c : Char) : List Char :=
  let digits := Nat.toDigits 16 c.toNat
  '\\' :: 'x' :: (List.replicate (2 - digits.length) '0' ++ digits)

/-- Are these the digits of a lone surrogate, from `d800` to `dfff`, or do they start with them? -/
def startsWithSurrogate : List Char → Bool
  | d :: a :: b :: c :: _ =>
    let isLetter (c : Char) := ('a' ≤ c && c ≤ 'f') || ('A' ≤ c && c ≤ 'F')
    let isHex (c : Char) := c.isDigit || isLetter c
    (d = 'd' || d = 'D') && (a = '8' || a = '9' || isLetter a) && isHex b && isHex c
  | _ => false

/-- Does a text go on from a backslash to the escape of a lone surrogate? -/
def isSurrogateEscape : List Char → Bool
  | 'u' :: '\x7b' :: digits => startsWithSurrogate digits
  | 'u' :: digits => startsWithSurrogate digits
  | _ => false

/-- A character between quotes, given the text after it.  A backslash is doubled, except where it
stands for a lone surrogate. -/
def escape (quote c : Char) (rest : List Char) : List Char :=
  match c with
  | '\n' => ['\\', 'n']
  | '\r' => ['\\', 'r']
  | '\t' => ['\t']
  | '\x08' => ['\\', 'b']
  | '\x0b' => ['\\', 'v']
  | '\x0c' => ['\\', 'f']
  | '\x00' =>
    if rest.head?.any Char.isDigit then ['\\', 'x', '0', '0'] else ['\\', '0']
  | '\\' => if isSurrogateEscape rest then ['\\'] else ['\\', '\\']
  | '\u2028' => "\\u2028".toList
  | '\u2029' => "\\u2029".toList
  | '\ufeff' => "\\uFEFF".toList
  | c => if c = quote then ['\\', c] else if c.toNat < 0x20 then hexEscape c else [c]

/-- The characters between quotes. -/
def escapeAll (quote : Char) : List Char → List Char
  | [] => []
  | c :: rest => escape quote c rest ++ escapeAll quote rest

/-- A string literal. -/
def string (value : String) : String :=
  let cs := value.toList
  let quote := quoteOf cs
  String.ofList (quote :: (escapeAll quote cs ++ [quote]))

/-- The text of a template: its lines end in line feeds. -/
def unifyNewlines : List Char → List Char
  | [] => []
  | '\r' :: '\n' :: rest => '\n' :: unifyNewlines rest
  | c :: rest => (if c = '\r' then '\n' else c) :: unifyNewlines rest

/-- The text between two expressions of a template. -/
def templateText (raw : String) : String := String.ofList (unifyNewlines raw.toList)

end Literal

end HostProps
