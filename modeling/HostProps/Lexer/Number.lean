import HostProps.Lexer.Escape
import HostProps.Lexer.Token
import HostProps.Number.Double
import HostProps.Text.Identifier

/-!
# Numeric literals

A number is decimal, with an optional fraction and exponent, or has a prefix that names its base.
An integer with the suffix `n` is of any size, and decimal if it has no such prefix, also with zeros
in front.  Underscores may stand between digits.
-/

namespace HostProps

/-- A character that the words of a program may start with. -/
def startsWord (c : Char) : Bool := startsName c || c = '\\'

/-- A character that the words of a program may go on with. -/
def continuesWord (c : Char) : Bool := c = '$' || continuesName c

namespace NumberLiteral

/-- Digits and the underscores between them: the digits, and the place after them. -/
def digits (isDigit : Char → Bool) (cursor : Cursor) : List Char × Cursor :=
  let (text, after) := cursor.span fun c => isDigit c || c = '_'
  (text.filter (· ≠ '_'), after)

/-- The base that the second character of a literal names, and the digits of that base. -/
def base? (c : Char) : Option (Nat × (Char → Bool)) :=
  match c.toLower with
  | 'x' => some (16, isHexDigit)
  | 'o' => some (8, Escape.isOctalDigit)
  | 'b' => some (2, fun c => c = '0' || c = '1')
  | _ => none

/-- An exponent, if one starts at the cursor. -/
def exponent (cursor : Cursor) : Int × Cursor :=
  match cursor.rest with
  | e :: sign :: _ =>
    if e = 'e' || e = 'E' then
      let isSign := sign = '+' || sign = '-'
      let (ds, after) := digits Char.isDigit (cursor.skip (if isSign then 2 else 1))
      if ds.isEmpty then (0, cursor)
      else
        let n : Int := valueOfDigits 10 ds
        (if sign = '-' then -n else n, after)
    else (0, cursor)
  | _ => (0, cursor)

/-- A fraction, if one starts at the cursor. -/
def fraction (cursor : Cursor) : List Char × Cursor :=
  match cursor.rest with
  | '.' :: _ => digits Char.isDigit (cursor.skip 1)
  | _ => ([], cursor)

/-- A number may not be followed by a word, unless that starts with an escape. -/
def unlessWordFollows (after : Cursor) (token : Token) : Token × Cursor :=
  if after.rest.head?.any startsName then (.invalid ⟨.nameAfterNumber, after.position⟩, after)
  else (token, after)

/-- An integer: of any size if the suffix `n` follows, which ends it whatever comes next. -/
def integer (start after : Cursor) (n : Nat) : Token × Cursor :=
  match after.rest with
  | 'n' :: _ =>
    let after := after.skip 1
    (.bigInt n (start.textTo after), after)
  | _ => unlessWordFollows after (.number (Double.ofNat n) (start.textTo after))

/-- A decimal number. -/
def decimal (start : Cursor) : Token × Cursor :=
  let (whole, afterWhole) := digits Char.isDigit start
  match afterWhole.rest with
  | 'n' :: _ => integer start afterWhole (valueOfDigits 10 whole)
  | _ =>
    let (part, afterPart) := fraction afterWhole
    let (e, after) := exponent afterPart
    let value := Double.ofDecimal (valueOfDigits 10 (whole ++ part)) (e - part.length)
    unlessWordFollows after (.number value (start.textTo after))

/-- The number that starts at the cursor; a fault is noted if it is written in an obsolete way. -/
def read (start : Cursor) : Token × Cursor × Option Fault :=
  match start.rest with
  | '0' :: c :: _ =>
    match base? c with
    | some (base, isDigit) =>
      let (ds, after) := digits isDigit (start.skip 2)
      if ds.isEmpty then (.invalid ⟨.numberExpected, after.position⟩, after, none)
      else
        let (token, after) := integer start after (valueOfDigits base ds)
        (token, after, none)
    | none =>
      if c.isDigit then
        let (ds, after) := digits Char.isDigit start
        if after.startsWith "n" then
          let (token, after) := decimal start
          (token, after, none)
        else if ds.all Escape.isOctalDigit then
          let (token, after) := unlessWordFollows after
            (.number (Double.ofNat (valueOfDigits 8 ds)) (start.textTo after))
          (token, after, some ⟨.legacyOctal, start.position⟩)
        else
          let (token, after) := decimal start
          (token, after, some ⟨.legacyDecimal, start.position⟩)
      else
        let (token, after) := decimal start
        (token, after, none)
  | _ =>
    let (token, after) := decimal start
    (token, after, none)

end NumberLiteral

end HostProps
