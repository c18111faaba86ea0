/-
**Labels of a domain in ASCII.**

A label with other than ASCII characters is written with its ASCII characters first and then, for
the others in the order of their code points, how far each is from the one before, as numbers of a
variable number of digits of base 36.

Main definitions:

* `Url.Punycode.adapt` — how the thresholds of digits follow the numbers written so far;
* `Url.Punycode.State`, `Url.Punycode.step?` — the automaton that reads digits;
* `Url.Punycode.decode?` — **the label of a text**.
-/

set_option relaxedAutoImplicit false
set_option autoImplicit false

namespace ManifestRegistry

namespace Url

namespace Punycode

/-- The value of a digit: letters of either case, then the decimal digits. -/
def digitValue? (c : Char) : Option Nat :=
  if 'a' ≤ c ∧ c ≤ 'z' then some (c.toNat - 97)
  else if 'A' ≤ c ∧ c ≤ 'Z' then some (c.toNat - 65)
  else if '0' ≤ c ∧ c ≤ '9' then some (c.toNat - 22)
  else none

/-- The least digit that has another one behind it, at the place `k`. -/
def threshold (k bias : Nat) : Nat := min (max (k - bias) 1) 26

/-- A number divided by 35 until it is at most 455, and 36 times how often. -/
def scaled (delta k : Nat) : Nat × Nat :=
  if 455 < delta then scaled (delta / 35) (k + 36) else (delta, k)
termination_by delta
decreasing_by exact Nat.div_lt_self (by omega) (by omega)

/-- The bias after a number that led to a label of `count` characters. -/
def adapt (delta count : Nat) (first : Bool) : Nat :=
  let damped := if first then delta / 700 else delta / 2
  let (d, k) := scaled (damped + damped / count) 0
  k + 36 * d / (d + 38)

/-- A label in the making, and the number in the making. -/
structure State where
  label : List Char
  code : Nat := 128
  /-- The place of the last insertion plus one. -/
  place : Nat := 0
  bias : Nat := 72
  delta : Nat := 0
  weight : Nat := 1
  /-- The place of the digit that is due, in steps of 36. -/
  digitPlace : Nat := 36

/-- The numbers that may occur. -/
def numberLimit : Nat := 0x100000000

/-- The end of a number: a character is put into the label. -/
def State.insert? (s : State) (delta : Nat) : Option State :=
  let reached := s.place + delta
  let count := s.label.length + 1
  let code := s.code + reached / count
  let place := reached % count
  if h : code.isValidChar ∧ reached < numberLimit then
    some {
      label := s.label.take place ++ Char.ofNatAux code h.1 :: s.label.drop place
      code := code
      place := place + 1
      bias := adapt delta count (s.place = 0) }
  else none

/-- One digit. -/
def step? (s : State) (c : Char) : Option State :=
  match digitValue? c with
  | none => none
  | some d =>
    let delta := s.delta + d * s.weight
    let t := threshold s.digitPlace s.bias
    if numberLimit ≤ delta then none
    else if d < t then s.insert? delta
    else
      let weight := s.weight * (36 - t)
      if numberLimit ≤ weight then none
      else some { s with delta := delta, weight := weight, digitPlace := s.digitPlace + 36 }

/-- The ASCII characters in front of the last hyphen, and the digits behind it. -/
def parts (cs : List Char) : List Char × List Char :=
  let digits := (cs.reverse.takeWhile (· ≠ '-')).reverse
  let front := cs.take (cs.length - digits.length - 1)
  if digits.length + 1 < cs.length then (front, digits) else ([], cs)

/-- The label of a text; its last number must be complete. -/
def decode? (cs : List Char) : Option (List Char) :=
  let (basic, digits) := parts cs
  match digits.foldlM step? { label := basic } with
  | some s => if s.digitPlace = 36 then some s.label else none
  | none => none

end Punycode

end Url

end ManifestRegistry
