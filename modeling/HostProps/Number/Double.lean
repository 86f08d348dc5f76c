/-!
# Binary64 numbers

A numeric literal denotes a binary64 number.  The number is held as its bit pattern, so equality
is decidable and every operation below is exact arithmetic on naturals: a finite number is
`mantissa * 2 ^ scale`, and `Double.ofDecimal` rounds a decimal to the nearest such number, ties
to the even mantissa.
-/

namespace HostProps

/-- A binary64 number, given by its bit pattern. -/
structure Double where
  bits : UInt64
deriving DecidableEq, Inhabited, Repr

namespace Double

/-- The number `+0`. -/
def zero : Double := ⟨0⟩

/-- The sign bit. -/
def isNegative (d : Double) : Bool :=
  d.bits >>> 63 == 1

/-- The biased exponent: eleven bits. -/
def exponentField (d : Double) : Nat :=
  ((d.bits >>> 52) &&& 0x7ff).toNat

/-- The stored fraction: fifty-two bits. -/
def fraction (d : Double) : Nat :=
  (d.bits &&& 0xfffffffffffff).toNat

/-- Neither an infinity nor a NaN. -/
def isFinite (d : Double) : Bool :=
  d.exponentField != 0x7ff

/-- A NaN has the greatest exponent and a fraction. -/
def isNaN (d : Double) : Bool :=
  !d.isFinite && d.fraction != 0

/-- Either zero: the sign does not count. -/
def isZero (d : Double) : Bool :=
  d.bits &&& 0x7fffffffffffffff == 0

/-- The leading bit of a normal significand, `2 ^ 52`, which is not stored. -/
def implicitBit : Nat := 0x10000000000000

/-- The integer significand of a finite number; the leading bit of a normal one is implicit. -/
def mantissa (d : Double) : Nat :=
  if d.exponentField = 0 then d.fraction else d.fraction + implicitBit

/-- The power of two that the significand of a finite number is scaled by. -/
def scale (d : Double) : Int :=
  (max d.exponentField 1 : Nat) - 1075

/-! ### Rounding a decimal -/

/-- `num / den` rounded to the nearest natural, ties to even. -/
def roundHalfEven (num den : Nat) : Nat :=
  let q := num / den
  let twice := 2 * (num % den)
  if twice < den then q
  else if den < twice then q + 1
  else if q % 2 = 0 then q else q + 1

/-- The numerator and the denominator of `n * base ^ e`. -/
def ratio (n base : Nat) (e : Int) : Nat × Nat :=
  if 0 ≤ e then (n * Nat.pow base e.toNat, 1) else (n, Nat.pow base (-e).toNat)

/-- The bits of the greatest magnitude below infinity, plus one: those of infinity. -/
def infinityBits : Nat := 0x7ff * implicitBit

/-- The bits of the positive rational `num / den`, rounded to nearest, ties to even.

The scale is chosen so that the rounded significand has fifty-three bits, or is that of the
subnormal numbers.  A significand that rounds up to `2 ^ 53` carries into the exponent by plain
addition. -/
def bitsOfRatio (num den : Nat) : Nat :=
  let log := (Nat.log2 num : Int) - Nat.log2 den
  -- `2 ^ (log - 1) < num / den < 2 ^ (log + 1)`
  let atLeast (k : Int) : Bool :=
    let (n, d) := ratio num 2 (-k)
    decide (den * d ≤ n)
  let log := if atLeast log then log else log - 1
  let k := max (log - 52) (-1074)
  let (n, d) := ratio num 2 (-k)
  let m := roundHalfEven n (den * d)
  let bits := if m < implicitBit then m else (k + 1074).toNat * implicitBit + m
  if infinityBits ≤ bits then infinityBits else bits

/-- The number nearest to `n * 10 ^ e`, ties to the even mantissa; infinity beyond the range.

A decimal with its first digit past the 310th place before the point is infinite, and one with its
first digit past the 330th place after it is zero, so no large power is computed for those. -/
def ofDecimal (n : Nat) (e : Int) : Double :=
  let digits : Int := (Nat.toDigits 10 n).length
  if n = 0 then zero
  else if 310 < digits + e then ⟨infinityBits.toUInt64⟩
  else if digits + e < -330 then zero
  else
    let (num, den) := ratio n 10 e
    ⟨(bitsOfRatio num den).toUInt64⟩

/-- The number with the sign bit set. -/
def negate (d : Double) : Double :=
  ⟨d.bits ^^^ 0x8000000000000000⟩

/-- The number nearest to a natural. -/
def ofNat (n : Nat) : Double := ofDecimal n 0

instance (n : Nat) : OfNat Double n := ⟨ofNat n⟩

/-- The natural that a finite number without fractional part has as its magnitude. -/
def natAbs? (d : Double) : Option Nat :=
  if !d.isFinite then none
  else
    let (num, den) := ratio d.mantissa 2 d.scale
    if num % den = 0 then some (num / den) else none

end Double

end HostProps
