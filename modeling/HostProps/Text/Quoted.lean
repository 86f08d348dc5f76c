import HostProps.Text.IdentifierTable
import HostProps.Text.QuotedTable

/-!
# Quoted text

How strings and lists of strings are shown in the log: in double quotes, with quotes and
backslashes escaped, and every character that has no glyph of its own given by its code point.
-/

namespace HostProps

namespace Quoted

/-- A character between the quotes. -/
def char (c : Char) : String :=
  let code := c.toNat
  if c = '"' then "\\\""
  else if c = '\\' then "\\\\"
  else if c = '\n' then "\\n"
  else if c = '\r' then "\\r"
  else if c = '\t' then "\\t"
  else if code = 0 then "\\0"
  else if code < 0x20 || inRanges QuotedTable.extending code || inRanges QuotedTable.fillers code
      || inRanges QuotedTable.unprintable code then
    "\\u\x7b" ++ String.ofList (Nat.toDigits 16 code) ++ "\x7d"
  else c.toString

def string (s : String) : String :=
  "\"" ++ String.join (s.toList.map char) ++ "\""

def list (items : List String) : String :=
  "[" ++ ", ".intercalate (items.map string) ++ "]"

def option : Option String → String
  | some s => "Some(" ++ string s ++ ")"
  | none => "None"

end Quoted

end HostProps
