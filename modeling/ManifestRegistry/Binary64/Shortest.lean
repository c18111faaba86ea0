/-
**The fewest decimal digits that read back as the same double.**

A finite double stands for every real number that rounds to it, an interval around its exact value.
For one digit, two digits and so on up to seventeen, the two neighbours of the exact value on that
decimal grid are tested against the interval; the first grid with a hit wins and, of two hits, the
nearer one.

Main definitions:

* `Decimal` — a digit string and a power of ten;
* `Binary64.Interval` — the reals that round to a double, over one denominator;
* `Binary64.shortest` — **the shortest decimal that reads back**.
-/

import ManifestRegistry.Binary64

set_option relaxedAutoImplicit false
set_option autoImplicit false

namespace ManifestRegistry

/-- The number `coefficient * 10 ^ exponent`. -/
structure Decimal where
  coefficient : Nat
  exponent : Int
deriving DecidableEq, Repr

namespace Decimal

/-- The same number without trailing zeros in its coefficient; `fuel` bounds how many are removed. -/
def trim : Nat → Decimal → Decimal
  | 0, d => d
  | fuel + 1, d =>
    if d.coefficient ≠ 0 ∧ d.coefficient % 10 = 0 then
      trim fuel ⟨d.coefficient / 10, d.exponent + 1⟩
    else d

/-- How many decimal digits a positive number has. -/
def digitCount (n : Nat) : Nat := (Nat.toDigits 10 n).length

end Decimal

namespace Binary64

/-- The reals that round to a double: from `low / den` to `high / den`, around `mid / den`, with both
ends included or both left out. -/
structure Interval where
  low : Nat
  mid : Nat
  high : Nat
  den : Nat
  closed : Bool

/-- The interval of a finite double.  Below a power of two the gap to the next double is half as
wide as above it. -/
def interval (x : Binary64) : Interval :=
  let (m, e) := x.parts
  let lowGap := if m = hiddenBit ∧ 1 < x.exponentField then 1 else 2
  let scale : Nat × Nat :=
    if 2 ≤ e then (1 <<< (e.toNat - 2), 1) else (1, 1 <<< (2 - e).toNat)
  ⟨(4 * m - lowGap) * scale.1, 4 * m * scale.1, (4 * m + 2) * scale.1, scale.2, m % 2 = 0⟩

namespace Interval

/-- Whether the fraction `num / d` lies in the interval. -/
def contains (i : Interval) (num d : Nat) : Bool :=
  let n := num * i.den
  if i.closed then i.low * d ≤ n && n ≤ i.high * d else i.low * d < n && n < i.high * d

/-- The power of ten of the leading digit of the middle: `10 ^ k ≤ mid / den < 10 ^ (k + 1)`. -/
def leadingPower (i : Interval) : Int :=
  if i.den ≤ i.mid then (Decimal.digitCount (i.mid / i.den) : Int) - 1
  else -(Decimal.digitCount ((i.den + i.mid - 1) / i.mid - 1) : Int)

/-- The point of the grid of `digits` significant digits that lies in the interval and nearest to its
middle, if there is one. -/
def gridPoint (i : Interval) (digits : Nat) : Option Decimal :=
  let step : Int := i.leadingPower + 1 - (digits : Int)
  -- one grid step is `up / down`
  let (up, down) := if 0 ≤ step then (Nat.pow 10 step.toNat, 1) else (1, Nat.pow 10 (-step).toNat)
  let below := i.mid * down / (i.den * up)
  let hitBelow := i.contains (below * up) down
  let hitAbove := i.contains ((below + 1) * up) down
  let belowNearer :=
    let twice := 2 * i.mid * down
    let half := (2 * below + 1) * up * i.den
    twice < half || (twice = half && below % 2 = 0)
  if hitBelow && (belowNearer || !hitAbove) then some ⟨below, step⟩
  else if hitAbove then some ⟨below + 1, step⟩
  else none

end Interval

/-- The shortest decimal that rounds back to `x`, which is finite and not zero. -/
def shortest (x : Binary64) : Decimal :=
  let i := x.interval
  match (List.range' 1 17).findSome? i.gridPoint with
  | some d => d.trim 17
  | none => ⟨i.mid / i.den, 0⟩

end Binary64

end ManifestRegistry
