import HostProps.Text.Cursor
import HostProps.Text.Fault

/-!
# Escapes

What stands after a backslash in a string, in a template or in a name.  Hexadecimal escapes of
surrogates, which are no characters, stand for their own text.  What is wrong with an escape has the
position that it was read up to.
-/

namespace HostProps

/-- The value of a hexadecimal digit. -/
def hexValue? (c : Char) : Option Nat :=
  if c.isDigit then some (c.toNat - '0'.toNat)
  else if 'a' ≤ c && c ≤ 'f' then some (c.toNat - 'a'.toNat + 10)
  else if 'A' ≤ c && c ≤ 'F' then some (c.toNat - 'A'.toNat + 10)
  else none

def isHexDigit (c : Char) : Bool := (hexValue? c).isSome

/-- The number with some digits; a digit that is none counts as zero. -/
def valueOfDigits (base : Nat) (digits : List Char) : Nat :=
  digits.foldl (fun n c => n * base + (hexValue? c).getD 0) 0

/-- What an escape stands for, and the place after it. -/
structure Escape where
  text : List Char
  cursor : Cursor
  /-- The escape is octal, which is obsolete. -/
  isLegacy : Bool
deriving Inhabited

namespace Escape

/-- The character with a code, if it is one, and the text of the escape otherwise. -/
def ofCode (code : Nat) (text : List Char) : List Char :=
  if code < 0xd800 || (0xe000 ≤ code && code < 0x110000) then [Char.ofNat code] else text

/-- An escape with exactly `count` hexadecimal digits, which start at the cursor. -/
def fixed (count : Nat) (opening : List Char) (expected : String) (cursor : Cursor) :
    Except Fault Escape :=
  let digits := (cursor.rest.take count).takeWhile isHexDigit
  let after := cursor.skip digits.length
  if digits.length = count then
    .ok ⟨ofCode (valueOfDigits 16 digits) ('\\' :: (opening ++ digits)), after, false⟩
  else .error ⟨.badEscape expected, after.position⟩

/-- An escape with hexadecimal digits up to a brace. -/
def braced (cursor : Cursor) : Except Fault Escape :=
  let (digits, after) := cursor.span isHexDigit
  let code := valueOfDigits 16 digits
  if digits.isEmpty then .error ⟨.badEscape "1-6 hex characters", after.position⟩
  else if 0x110000 ≤ code then
    .error ⟨.badEscape "1-6 hex characters in the range 0 to 10FFFF.", after.position⟩
  else
    match after.rest with
    | '\x7d' :: _ =>
      .ok ⟨ofCode code ("\\u\x7b".toList ++ digits ++ ['\x7d']), after.skip 1, false⟩
    | _ => .error ⟨.bracedEscapeNotClosed, after.position⟩

/-- What follows `\u`. -/
def unicode (cursor : Cursor) : Except Fault Escape :=
  match cursor.rest with
  | '\x7b' :: _ => braced (cursor.skip 1)
  | _ => fixed 4 ['u'] "4 hex characters" cursor

/-- The characters that stand for others after a backslash. -/
def simple : Char → Char
  | 'n' => '\n'
  | 'r' => '\r'
  | 't' => '\t'
  | 'b' => '\x08'
  | 'v' => '\x0b'
  | 'f' => '\x0c'
  | c => c

def isOctalDigit (c : Char) : Bool := '0' ≤ c && c ≤ '7'

/-- One to three octal digits, for a code below 256. -/
def octal (cursor : Cursor) : Escape :=
  let digits := (cursor.rest.take 3).takeWhile isOctalDigit
  let digits := if valueOfDigits 8 digits < 256 then digits else digits.take 2
  ⟨[Char.ofNat (valueOfDigits 8 digits)], cursor.skip digits.length, true⟩

/-- What follows a backslash. -/
def read (cursor : Cursor) : Except Fault Escape :=
  match cursor.rest with
  | [] => .error ⟨.unterminatedString, cursor.position⟩
  | '\r' :: '\n' :: _ => .ok ⟨[], cursor.skip 2, false⟩
  | 'x' :: _ => fixed 2 ['x'] "2 hex characters" (cursor.skip 1)
  | 'u' :: _ => unicode (cursor.skip 1)
  | c :: rest =>
    if endsLine c then .ok ⟨[], cursor.skip 1, false⟩
    else if c = '0' && !rest.head?.any isOctalDigit then .ok ⟨['\x00'], cursor.skip 1, false⟩
    else if isOctalDigit c then .ok (octal cursor)
    else .ok ⟨[simple c], cursor.skip 1, false⟩

end Escape

end HostProps
