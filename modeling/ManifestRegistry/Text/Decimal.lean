/-
**Decimal numerals.**

Numbers arrive as text in cursors, versions and settings, each with its own rule about signs and
leading zeros.  What they share is here: digit strings and their value, and the numerals that an
unsigned or signed setting may have.

Main definitions:

* `Text.digitsValue?` — the value of a nonempty string of digits;
* `Text.natural?` — a numeral with an optional plus sign, up to a bound;
* `Text.integer?` — a numeral with an optional sign, within 64 bits;
* `Text.padded` — a number written with at least so many digits.
-/

set_option relaxedAutoImplicit false
set_option autoImplicit false

namespace ManifestRegistry

namespace Text

/-- The value of a digit. -/
def digitValue (c : Char) : Nat := c.toNat - 48

/-- The value of a string of digits, read from the left. -/
def digitsValue (ds : List Char) : Nat := ds.foldl (fun n c => 10 * n + digitValue c) 0

/-- The value of a nonempty string that holds only digits. -/
def digitsValue? (ds : List Char) : Option Nat :=
  if ds ≠ [] ∧ ds.all Char.isDigit then some (digitsValue ds) else none

/-- The value of a numeral of at most `bound`: digits, with a plus sign in front or not.  Leading
zeros do not matter. -/
def natural? (bound : Nat) (cs : List Char) : Option Nat :=
  let digits :=
    match cs with
    | '+' :: ds => ds
    | ds => ds
  match digitsValue? digits with
  | some n => if n ≤ bound then some n else none
  | none => none

/-- The value of a numeral between `-2 ^ 63` and `2 ^ 63 - 1`: digits, with a sign in front or not. -/
def integer? (cs : List Char) : Option Int :=
  let value : Option Int :=
    match cs with
    | '-' :: ds => (digitsValue? ds).map fun n => -(n : Int)
    | '+' :: ds => (digitsValue? ds).map fun n => (n : Int)
    | ds => (digitsValue? ds).map fun n => (n : Int)
  match value with
  | some i => if -0x8000000000000000 ≤ i ∧ i ≤ 0x7fffffffffffffff then some i else none
  | none => none

/-- A number with zeros in front up to `width` digits. -/
def padded (width n : Nat) : List Char :=
  let ds := Nat.toDigits 10 n
  List.replicate (width - ds.length) '0' ++ ds

end Text

end ManifestRegistry
