/-
**Compact JSON text.**

Entries are written in their order without blanks.  In strings only what must be escaped is: the
quote, the backslash and the controls below a blank, five of which have a short form.  A double is
written with the fewest digits that read back, always with a point or an exponent.

Main definitions:

* `Json.escape` — a character inside a string literal;
* `Json.quote` — a string literal;
* `Json.Number.chars` — a number;
* `Json.chars`, `Json.compress` — **the compact text of a value**.
-/

import ManifestRegistry.Json.Basic
import ManifestRegistry.Binary64.Shortest
import ManifestRegistry.Text.Hex

set_option relaxedAutoImplicit false
set_option autoImplicit false

namespace ManifestRegistry

namespace Json

/-! ### Strings -/

/-- A character as it stands inside a string literal. -/
def escape (c : Char) : List Char :=
  if c = '\x22' then ['\x5c', '\x22']
  else if c = '\x5c' then ['\x5c', '\x5c']
  else if c = '\x08' then ['\x5c', 'b']
  else if c = '\x09' then ['\x5c', 't']
  else if c = '\x0a' then ['\x5c', 'n']
  else if c = '\x0c' then ['\x5c', 'f']
  else if c = '\x0d' then ['\x5c', 'r']
  else if c.toNat < 32 then
    ['\x5c', 'u', '0', '0', Text.hexDigit (c.toNat / 16), Text.hexDigit (c.toNat % 16)]
  else [c]

/-- A string literal. -/
def quote (s : String) : List Char := '\x22' :: (s.toList.flatMap escape ++ ['\x22'])

/-! ### Numbers -/

/-- The decimal digits of an integer, with a minus sign in front of a negative one. -/
def intChars (i : Int) : List Char :=
  if i < 0 then '-' :: Nat.toDigits 10 i.natAbs else Nat.toDigits 10 i.natAbs

/-- The layout of a decimal `d₁d₂… * 10 ^ k`: positional while the point falls within sixteen digits
or at most five places before the first one, else with an exponent. -/
def decimalChars (d : Decimal) : List Char :=
  let digits := Nat.toDigits 10 d.coefficient
  let point : Int := (digits.length : Int) + d.exponent
  if 0 ≤ d.exponent ∧ point ≤ 16 then
    digits ++ List.replicate d.exponent.toNat '0' ++ ['.', '0']
  else if 0 < point ∧ point ≤ 16 then
    digits.take point.toNat ++ '.' :: digits.drop point.toNat
  else if -5 < point ∧ point ≤ 0 then
    '0' :: '.' :: List.replicate (-point).toNat '0' ++ digits
  else
    let mantissa :=
      match digits with
      | lead :: next :: more => lead :: '.' :: next :: more
      | short => short
    mantissa ++ 'e' :: intChars (point - 1)

/-- A double; what is not finite has no JSON form and is written as `null`. -/
def floatChars (x : Binary64) : List Char :=
  if x.isUnbounded then ['n', 'u', 'l', 'l']
  else
    let body := if x.parts.1 = 0 then ['0', '.', '0'] else decimalChars x.shortest
    if x.negative then '-' :: body else body

/-- A number. -/
def Number.chars : Number → List Char
  | .integer i => intChars i.value
  | .float x => floatChars x

/-! ### Values -/

mutual

/-- The compact text of a value, as characters. -/
def chars : Json → List Char
  | .null => ['n', 'u', 'l', 'l']
  | .bool true => ['t', 'r', 'u', 'e']
  | .bool false => ['f', 'a', 'l', 's', 'e']
  | .number n => n.chars
  | .text s => quote s
  | .array [] => ['[', ']']
  | .array (j :: js) => '[' :: (chars j ++ (itemsChars js ++ [']']))
  | .object [] => ['\x7b', '\x7d']
  | .object ((k, j) :: es) => '\x7b' :: (quote k ++ ':' :: (chars j ++ (entriesChars es ++ ['\x7d'])))

/-- Further items of an array, each after a comma. -/
def itemsChars : List Json → List Char
  | [] => []
  | j :: js => ',' :: (chars j ++ itemsChars js)

/-- Further entries of an object, each after a comma. -/
def entriesChars : List (String × Json) → List Char
  | [] => []
  | (k, j) :: es => ',' :: (quote k ++ ':' :: (chars j ++ entriesChars es))

end

/-- The compact text of a value. -/
def compress (j : Json) : String := String.ofList j.chars

end Json

end ManifestRegistry
