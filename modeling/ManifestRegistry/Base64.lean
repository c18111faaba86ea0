/-
**Base64 in the alphabet that is safe in a URL, without padding.**

Three bytes become four digits; one or two bytes at the end become two or three, whose unused bits
are zero.  Reading is strict: no padding, no foreign character, no unused bit set, so every text
that is accepted is the one that writing produces.

Main definitions:

* `Base64.encode` — bytes as digits;
* `Base64.decode` — digits as bytes.
-/

set_option relaxedAutoImplicit false
set_option autoImplicit false

namespace ManifestRegistry

namespace Base64

/-- The digit of a number below 64. -/
def digit (n : Nat) : Char :=
  if n < 26 then Char.ofNat (65 + n)
  else if n < 52 then Char.ofNat (71 + n)
  else if n < 62 then Char.ofNat (n - 4)
  else if n = 62 then '-'
  else '_'

/-- The number of a digit. -/
def value? (c : Char) : Option Nat :=
  let n := c.toNat
  if 65 ≤ n ∧ n ≤ 90 then some (n - 65)
  else if 97 ≤ n ∧ n ≤ 122 then some (n - 71)
  else if 48 ≤ n ∧ n ≤ 57 then some (n + 4)
  else if c = '-' then some 62
  else if c = '_' then some 63
  else none

theorem value?_digit_all : ∀ n < 64, value? (digit n) = some n := by decide

theorem value?_digit {n : Nat} (h : n < 64) : value? (digit n) = some n := value?_digit_all n h

/-- Bytes as digits. -/
def encode : List Nat → List Char
  | a :: b :: c :: rest =>
    digit (a / 4) :: digit (a % 4 * 16 + b / 16) :: digit (b % 16 * 4 + c / 64) ::
      digit (c % 64) :: encode rest
  | [a, b] => [digit (a / 4), digit (a % 4 * 16 + b / 16), digit (b % 16 * 4)]
  | [a] => [digit (a / 4), digit (a % 4 * 16)]
  | [] => []

/-- The bytes of numbers below 64. -/
def bytes? : List Nat → Option (List Nat)
  | w :: x :: y :: z :: rest =>
    (bytes? rest).map fun bs =>
      (w * 4 + x / 16) :: (x % 16 * 16 + y / 4) :: (y % 4 * 64 + z) :: bs
  | [w, x, y] => if y % 4 = 0 then some [w * 4 + x / 16, x % 16 * 16 + y / 4] else none
  | [w, x] => if x % 16 = 0 then some [w * 4 + x / 16] else none
  | [_] => none
  | [] => some []

/-- The numbers of a list of digits. -/
def values? : List Char → Option (List Nat)
  | [] => some []
  | c :: cs =>
    match value? c with
    | some v => (values? cs).map (v :: ·)
    | none => none

/-- The bytes of a list of digits. -/
def decode (cs : List Char) : Option (List Nat) := (values? cs).bind bytes?

end Base64

end ManifestRegistry
