/-
**Binary floating point as bit patterns.**

A JSON number with a point or an exponent is held as a double precision value.  Only its bits are
kept, so equality is decidable and nothing depends on the machine's arithmetic: rounding, products
and quotients are computed on exact fractions and rounded once, to nearest with ties to even.

Main definitions:

* `Binary64` — a double, as its 64 bits;
* `Binary64.ofRatio` — the double nearest to a fraction;
* `Binary64.magnitude` — the fraction a finite double stands for, without its sign;
* `Binary64.scaleByPowerOfTen` — multiplication or division by a rounded power of ten.
-/

set_option relaxedAutoImplicit false
set_option autoImplicit false

namespace ManifestRegistry

/-- A double precision number, given by its bits. -/
structure Binary64 where
  bits : UInt64
deriving DecidableEq, Repr

namespace Binary64

/-! ### Fields of the bit pattern -/

/-- The weight of the sign bit. -/
def signBit : Nat := 0x8000000000000000

/-- The weight of the lowest bit of the exponent, which is that of the significand's leading bit. -/
def hiddenBit : Nat := 0x10000000000000

/-- Whether the sign bit is set. -/
def negative (x : Binary64) : Bool := signBit ≤ x.bits.toNat

/-- The exponent field, below `2048`. -/
def exponentField (x : Binary64) : Nat := x.bits.toNat / hiddenBit % 2048

/-- The fraction field, below `2 ^ 52`. -/
def fractionField (x : Binary64) : Nat := x.bits.toNat % hiddenBit

/-- Whether the value is an infinity or not a number. -/
def isUnbounded (x : Binary64) : Bool := x.exponentField = 2047

/-- The value with its sign bit chosen. -/
def withSign (sign : Bool) (magnitudeBits : Nat) : Binary64 :=
  ⟨UInt64.ofNat (if sign then signBit + magnitudeBits else magnitudeBits)⟩

/-- Zero of either sign. -/
def zero (sign : Bool) : Binary64 := withSign sign 0

/-- The significand and the exponent of two of a finite value: it is `significand * 2 ^ exponent`. -/
def parts (x : Binary64) : Nat × Int :=
  if x.exponentField = 0 then (x.fractionField, -1074)
  else (x.fractionField + hiddenBit, (x.exponentField : Int) - 1075)

/-! ### Rounding a fraction -/

/-- The fraction `num / den * 2 ^ (-e)`, as a numerator and a denominator. -/
def shiftRatio (num den : Nat) (e : Int) : Nat × Nat :=
  if 0 ≤ e then (num, den <<< e.toNat) else (num <<< (-e).toNat, den)

/-- The integer nearest to `num / den`, an exact half going to the even neighbour. -/
def roundHalfEven (num den : Nat) : Nat :=
  let q := num / den
  let r := num % den
  if 2 * r < den then q
  else if den < 2 * r then q + 1
  else if q % 2 = 0 then q else q + 1

/-- The exponent of two of the last place of the double nearest to `num / den`. -/
def lastPlace (num den : Nat) : Int :=
  let guess : Int := (Nat.log2 num : Int) - (Nat.log2 den : Int)
  let (n, d) := shiftRatio num den guess
  let top := if d ≤ n then guess else guess - 1
  max (top - 52) (-1074)

/-- The double nearest to `num / den` with the given sign; past the largest one, infinity. -/
def ofRatio (sign : Bool) (num den : Nat) : Binary64 :=
  if num = 0 then zero sign
  else
    let e := lastPlace num den
    let (n, d) := shiftRatio num den e
    let m := roundHalfEven n d
    -- the hidden bit, and a significand that rounds up to a power of two, carry into the exponent
    withSign sign (min ((e + 1074).toNat * hiddenBit + m) (2047 * hiddenBit))

/-- The fraction that a finite value stands for, sign left out. -/
def magnitude (x : Binary64) : Nat × Nat :=
  let (m, e) := x.parts
  if 0 ≤ e then (m <<< e.toNat, 1) else (m, 1 <<< (-e).toNat)

/-- `x * 10 ^ k` or, for negative `k`, `x / 10 ^ (-k)`, where the power of ten is itself rounded to
a double first. -/
def scaleByPowerOfTen (x : Binary64) (k : Int) : Binary64 :=
  let (n, d) := x.magnitude
  let (pn, pd) := (ofRatio false (Nat.pow 10 k.natAbs) 1).magnitude
  if 0 ≤ k then ofRatio x.negative (n * pn) (d * pd) else ofRatio x.negative (n * pd) (d * pn)

end Binary64

end ManifestRegistry
