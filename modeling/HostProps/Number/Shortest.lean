import HostProps.Number.Double

/-!
# The shortest decimal of a binary64 number

Of the decimals that round to a given number, the one with the fewest digits is chosen, and of
those the nearest to the number.  The decimals that round to `m * 2 ^ q` form an interval around
it, whose ends belong to it exactly when `m` is even.  For one digit, two digits, and so on up to
seventeen, the two neighbours of the number on the grid of that many digits are tried; the first
grid with a hit wins.

`Double.text` writes the digits in positional notation, however many zeros that takes.
-/

namespace HostProps

/-- `digits * 10 ^ exponent`. -/
structure Decimal where
  digits : Nat
  exponent : Int
deriving DecidableEq, Repr

namespace Double

/-- Compare `c * 10 ^ p` with `b * 2 ^ q`, exactly. -/
def compareDecimal (c : Nat) (p : Int) (b : Nat) (q : Int) : Ordering :=
  let (cn, cd) := ratio c 10 p
  let (bn, bd) := ratio b 2 q
  compare (cn * bd) (bn * cd)

/-- The ends of the interval that rounds to the number, in units of `2 ^ (scale - 2)`.  Below a
power of two the numbers are twice as dense. -/
def roundingEnds (d : Double) : Nat × Nat :=
  let m := d.mantissa
  let lower := if m = implicitBit && 1 < d.exponentField then 4 * m - 1 else 4 * m - 2
  (lower, 4 * m + 2)

/-- Does `c * 10 ^ p` round to the magnitude of the number? -/
def roundsTo (d : Double) (c : Nat) (p : Int) : Bool :=
  let (lower, upper) := d.roundingEnds
  let closed := d.mantissa % 2 == 0
  let q := d.scale - 2
  let low := compareDecimal c p lower q
  let high := compareDecimal c p upper q
  (low == .gt || (closed && low == .eq)) && (high == .lt || (closed && high == .eq))

/-- The place of the leading digit of the magnitude: the greatest `k` with `10 ^ k ≤ |d|`, searched
downwards from an upper bound in at most `fuel` steps. -/
def leadingPlace (d : Double) : Nat → Int → Int
  | 0, k => k
  | fuel + 1, k =>
    if compareDecimal 1 k d.mantissa d.scale == .gt then d.leadingPlace fuel (k - 1) else k

/-- The nearer of the two neighbours of the number on the grid `10 ^ p` that rounds to it. -/
def onGrid (d : Double) (p : Int) : Option Decimal :=
  let (num, den) := ratio d.mantissa 2 d.scale
  let (tn, td) := ratio 1 10 p
  let c := num * td / (den * tn)
  -- twice the distance to the lower neighbour, against the width of the grid
  let nearerUpper := decide (den * tn < 2 * (num * td % (den * tn)))
  let low := if d.roundsTo c p then some (Decimal.mk c p) else none
  let high := if d.roundsTo (c + 1) p then some (Decimal.mk (c + 1) p) else none
  match low, high with
  | some l, some h => some (if nearerUpper then h else l)
  | some l, none => some l
  | none, h => h

/-- The first of `count` ever finer grids, from `p` downwards, that has a decimal which rounds to
the number. -/
def firstGrid (d : Double) : Nat → Int → Option Decimal
  | 0, _ => none
  | count + 1, p =>
    match d.onGrid p with
    | some r => some r
    | none => d.firstGrid count (p - 1)

/-- Drop trailing zeros of the digits. -/
def Decimal.trim (n : Nat) (e : Int) : Nat → Decimal
  | 0 => ⟨n, e⟩
  | fuel + 1 => if n % 10 = 0 ∧ n ≠ 0 then Decimal.trim (n / 10) (e + 1) fuel else ⟨n, e⟩

/-- The shortest decimal that rounds to the magnitude of a finite number. -/
def shortest (d : Double) : Decimal :=
  if d.isZero then ⟨0, 0⟩
  else
    match d.firstGrid 17 (d.leadingPlace 700 309) with
    | some r => Decimal.trim r.digits r.exponent 20
    | none => ⟨0, 0⟩

/-- The text of a decimal: its digits, with zeros up to the point and a point where it is needed. -/
def magnitudeText (r : Decimal) : String :=
  let digits := Nat.toDigits 10 r.digits
  let count : Int := digits.length
  -- the value is `0.digits * 10 ^ point`
  let point := count + r.exponent
  let zeros (n : Int) := String.ofList (List.replicate n.toNat '0')
  let text := String.ofList
  if r.digits = 0 then "0"
  else if count ≤ point then text digits ++ zeros (point - count)
  else if 0 < point then text (digits.take point.toNat) ++ "." ++ text (digits.drop point.toNat)
  else "0." ++ zeros (-point) ++ text digits

/-- The text of a number as a numeric literal has it. -/
def text (d : Double) : String :=
  if d.isNaN then "NaN"
  else
    let magnitude := if d.isFinite then magnitudeText d.shortest else "Infinity"
    if d.isNegative then "-" ++ magnitude else magnitude

end Double

end HostProps
