/-
**Identities.**

A logical server is known by a number of 128 bits, written in five groups of hexadecimal digits.
Reading accepts either case, the plain form without hyphens, braces and the URN form.

Main definitions:

* `Uuid` — an identity;
* `Uuid.parse?` — its value from any of its written forms;
* `Uuid.text` — **the canonical form**, lower case with hyphens.
-/

import ManifestRegistry.Text.Hex

set_option relaxedAutoImplicit false
set_option autoImplicit false

namespace ManifestRegistry

/-- An identity of 128 bits. -/
structure Uuid where
  value : BitVec 128
deriving DecidableEq, Repr, Inhabited

namespace Uuid

/-! ### Writing -/

/-- The digits at the places `start - 1, …, start - count`, counted from the lowest digit. -/
def hexGroup (value : Nat) (start count : Nat) : List Char :=
  (List.range count).map fun i => Text.hexDigit (value / Nat.pow 16 (start - 1 - i) % 16)

/-- The canonical form, as characters. -/
def chars (u : Uuid) : List Char :=
  let v := u.value.toNat
  hexGroup v 32 8 ++ '-' :: hexGroup v 24 4 ++ '-' :: hexGroup v 20 4 ++ '-' :: hexGroup v 16 4 ++
    '-' :: hexGroup v 12 12

/-- The canonical form: groups of 8, 4, 4, 4 and 12 digits in lower case. -/
def text (u : Uuid) : String := String.ofList u.chars

/-! ### Reading -/

/-- The value of a string of hexadecimal digits, put behind `n`. -/
def hexValueFrom? : Nat → List Char → Option Nat
  | n, [] => some n
  | n, c :: cs =>
    match Text.hexValue? c with
    | some v => hexValueFrom? (16 * n + v) cs
    | none => none

/-- An identity from 32 digits. -/
def ofDigits? (cs : List Char) : Option Uuid :=
  if cs.length = 32 then (hexValueFrom? 0 cs).map fun n => ⟨BitVec.ofNat 128 n⟩ else none

/-- The 32 digits of a form with hyphens after the first 8, 12, 16 and 20 of them. -/
def dropHyphens? (cs : List Char) : Option (List Char) :=
  let g1 := cs.take 8
  let g2 := (cs.drop 9).take 4
  let g3 := (cs.drop 14).take 4
  let g4 := (cs.drop 19).take 4
  let g5 := cs.drop 24
  if cs.length = 36 ∧ cs[8]? = some '-' ∧ cs[13]? = some '-' ∧ cs[18]? = some '-' ∧
      cs[23]? = some '-' then
    some (g1 ++ g2 ++ g3 ++ g4 ++ g5)
  else none

/-- An identity from any of its written forms. -/
def parseChars? (cs : List Char) : Option Uuid :=
  let hyphened (cs : List Char) : Option Uuid := (dropHyphens? cs).bind ofDigits?
  if cs.length = 32 then ofDigits? cs
  else if cs.length = 36 then hyphened cs
  else if cs.length = 38 ∧ cs.head? = some '\x7b' ∧ cs.getLast? = some '\x7d' then
    hyphened ((cs.drop 1).take 36)
  else if cs.length = 45 ∧ cs.take 9 = ['u', 'r', 'n', ':', 'u', 'u', 'i', 'd', ':'] then
    hyphened (cs.drop 9)
  else none

/-- An identity from any of its written forms. -/
def parse? (s : String) : Option Uuid := parseChars? s.toList

end Uuid

end ManifestRegistry
