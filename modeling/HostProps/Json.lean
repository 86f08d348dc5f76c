import HostProps.Number.Shortest

/-!
# JSON values

Programs and settings travel as JSON.  An object is a list of named values in the order they were
written; when a name occurs twice the first one counts.  `Json.render` writes a value in its
compact form.
-/

namespace HostProps

/-- A JSON value.  A number is the decimal `mantissa * 10 ^ exponent` as written. -/
inductive Json where
  | null
  | bool (value : Bool)
  | number (mantissa : Int) (exponent : Int)
  | string (value : String)
  | array (items : List Json)
  | object (fields : List (String × Json))
deriving Inhabited, Repr

namespace Json

/-! ### Equality -/

mutual

/-- Equality of values is decided from the outside in. -/
def decEq : (a b : Json) → Decidable (a = b)
  | null, null => isTrue rfl
  | bool a, bool b => decidable_of_iff (a = b) (by simp)
  | number m e, number m' e' => decidable_of_iff (m = m' ∧ e = e') (by simp)
  | string a, string b => decidable_of_iff (a = b) (by simp)
  | array a, array b => have := decEqItems a b; decidable_of_iff (a = b) (by simp)
  | object a, object b => have := decEqFields a b; decidable_of_iff (a = b) (by simp)
  | null, bool _ | null, number _ _ | null, string _ | null, array _ | null, object _
  | bool _, null | bool _, number _ _ | bool _, string _ | bool _, array _ | bool _, object _
  | number _ _, null | number _ _, bool _ | number _ _, string _ | number _ _, array _
  | number _ _, object _ | string _, null | string _, bool _ | string _, number _ _
  | string _, array _ | string _, object _ | array _, null | array _, bool _
  | array _, number _ _ | array _, string _ | array _, object _ | object _, null
  | object _, bool _ | object _, number _ _ | object _, string _ | object _, array _ =>
    isFalse nofun

def decEqItems : (a b : List Json) → Decidable (a = b)
  | [], [] => isTrue rfl
  | a :: as, b :: bs =>
    have := decEq a b
    have := decEqItems as bs
    decidable_of_iff (a = b ∧ as = bs) (by simp)
  | [], _ :: _ | _ :: _, [] => isFalse nofun

def decEqFields : (a b : List (String × Json)) → Decidable (a = b)
  | [], [] => isTrue rfl
  | (n, a) :: as, (n', b) :: bs =>
    have := decEq a b
    have := decEqFields as bs
    decidable_of_iff ((n = n' ∧ a = b) ∧ as = bs) (by simp)
  | [], _ :: _ | _ :: _, [] => isFalse nofun

end

instance : DecidableEq Json := decEq

/-! ### Looking in -/

/-- The value of a field of an object. -/
def field? (name : String) : Json → Option Json
  | object fields => (fields.find? (·.1 == name)).map (·.2)
  | _ => none

/-- A field, where a missing one reads as `null`. -/
def field (name : String) (j : Json) : Json :=
  (j.field? name).getD null

def string? : Json → Option String
  | string s => some s
  | _ => none

def bool? : Json → Option Bool
  | bool b => some b
  | _ => none

def array? : Json → Option (List Json)
  | array items => some items
  | _ => none

/-- A number that denotes a natural. -/
def nat? : Json → Option Nat
  | number m e =>
    if m < 0 then none
    else if 0 ≤ e then some (m.toNat * Nat.pow 10 e.toNat)
    else if m.toNat % Nat.pow 10 (-e).toNat = 0 then some (m.toNat / Nat.pow 10 (-e).toNat)
    else none
  | _ => none

/-- A list of strings. -/
def strings? (j : Json) : Option (List String) :=
  j.array?.bind (·.mapM string?)

/-- The nearest binary64 number. -/
def double? : Json → Option Double
  | number m e =>
    let magnitude := Double.ofDecimal m.natAbs e
    some (if m < 0 then magnitude.negate else magnitude)
  | _ => none

def ofNat (n : Nat) : Json := number n 0

def ofStrings (items : List String) : Json := array (items.map string)

/-- An optional value, absent as `null`. -/
def ofOption {α : Type} (f : α → Json) : Option α → Json
  | some a => f a
  | none => null

/-- A finite binary64 number by its shortest digits. -/
def ofShortest (d : Double) : Json :=
  let s := d.shortest
  number (if d.isNegative then -s.digits else s.digits) s.exponent

/-- A binary64 number: a whole one below `9e15` as an integer, another by its shortest digits. -/
def ofDouble (d : Double) : Json :=
  match d.natAbs? with
  | some n =>
    if n < 9000000000000000 then number (if d.isNegative then -n else n) 0 else ofShortest d
  | none => if d.isFinite then ofShortest d else null

/-! ### Text -/

/-- A character of a string: quotes, backslashes and control characters are escaped. -/
def escapeChar (c : Char) : String :=
  if c = '"' then "\\\""
  else if c = '\\' then "\\\\"
  else if c.toNat < 0x20 then
    let hex := Nat.toDigits 16 c.toNat
    "\\u" ++ String.ofList (List.replicate (4 - hex.length) '0' ++ hex)
  else c.toString

def renderString (s : String) : String :=
  "\"" ++ String.join (s.toList.map escapeChar) ++ "\""

/-- An integer, or digits with an exponent. -/
def renderNumber (mantissa exponent : Int) : String :=
  if exponent = 0 then toString mantissa else toString mantissa ++ "e" ++ toString exponent

mutual

/-- The compact text of a value. -/
def render : Json → String
  | null => "null"
  | bool b => if b then "true" else "false"
  | number m e => renderNumber m e
  | string s => renderString s
  | array items => "[" ++ ",".intercalate (renderItems items) ++ "]"
  | object fields => "\x7b" ++ ",".intercalate (renderFields fields) ++ "\x7d"

def renderItems : List Json → List String
  | [] => []
  | j :: rest => j.render :: renderItems rest

def renderFields : List (String × Json) → List String
  | [] => []
  | (name, j) :: rest => (renderString name ++ ":" ++ j.render) :: renderFields rest

end

end Json

end HostProps
