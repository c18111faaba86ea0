/-
**Instants as text.**

Instants are written in universal time, `2024-01-01T00:00:00Z`, with as many digits of the second's
fraction as the place calls for.  A year outside 0 to 9999 has a sign.  Reading is lenient about
blanks and the number of digits, and accepts an offset from universal time.

Main definitions:

* `Instant.stamp` — always nine digits of fraction, the form kept in columns;
* `Instant.text` — no, three, six or nine digits, the fewest that lose nothing, the form in
  documents;
* `Instant.parse?` — **reading either form and its variants**.
-/

import ManifestRegistry.Instant.Basic
import ManifestRegistry.Text.Blank
import ManifestRegistry.Text.Decimal

set_option relaxedAutoImplicit false
set_option autoImplicit false

namespace ManifestRegistry

namespace Instant

/-! ### Writing -/

/-- A year: four digits, or a sign and at least four digits. -/
def yearChars (y : Int) : List Char :=
  if 0 ≤ y ∧ y ≤ 9999 then Text.padded 4 y.natAbs
  else (if y < 0 then '-' else '+') :: Text.padded 4 y.natAbs

/-- Date and time of day up to the second; a leap second counts as the sixtieth. -/
def clockChars (i : Instant) : List Char :=
  let date := Calendar.dateOf (i.seconds / 86400)
  let time := (i.seconds % 86400).toNat
  let second := time % 60 + i.nanos / 1000000000
  yearChars date.year ++ '-' :: Text.padded 2 date.month ++ '-' :: Text.padded 2 date.day ++
    'T' :: Text.padded 2 (time / 3600) ++ ':' :: Text.padded 2 (time / 60 % 60) ++
    ':' :: Text.padded 2 second

/-- The nanoseconds within the second shown. -/
def fraction (i : Instant) : Nat := i.nanos % 1000000000

/-- The form with nine digits of fraction. -/
def stampChars (i : Instant) : List Char :=
  i.clockChars ++ '.' :: Text.padded 9 i.fraction ++ ['Z']

/-- The form with nine digits of fraction. -/
def stamp (i : Instant) : String := String.ofList i.stampChars

/-- The form with the fewest groups of three digits of fraction that lose nothing. -/
def chars (i : Instant) : List Char :=
  let f := i.fraction
  let tail :=
    if f = 0 then []
    else if f % 1000000 = 0 then '.' :: Text.padded 3 (f / 1000000)
    else if f % 1000 = 0 then '.' :: Text.padded 6 (f / 1000)
    else '.' :: Text.padded 9 f
  i.clockChars ++ tail ++ ['Z']

/-- The form with the fewest groups of three digits of fraction that lose nothing. -/
def text (i : Instant) : String := String.ofList i.chars

/-! ### Reading -/

/-- A reader of characters: a value and what follows it. -/
abbrev Scanner (α : Type) := List Char → Option (α × List Char)

/-- Between one and `width` digits. -/
def digits (width : Nat) : Scanner Nat := fun cs =>
  let ds := (cs.takeWhile Char.isDigit).take width
  match Text.digitsValue? ds with
  | some n => some (n, cs.drop ds.length)
  | none => none

/-- Blanks, then between one and `width` digits. -/
def field (width : Nat) : Scanner Nat := fun cs => digits width (Text.dropBlanks cs)

/-- Blanks, then a year: up to four digits, or a sign and any number of them. -/
def yearField : Scanner Int := fun cs =>
  match Text.dropBlanks cs with
  | '-' :: ds => (digits ds.length ds).map fun (n, rest) => (-(n : Int), rest)
  | '+' :: ds => (digits ds.length ds).map fun (n, rest) => ((n : Int), rest)
  | ds => (digits 4 ds).map fun (n, rest) => ((n : Int), rest)

/-- Blanks, then the mark `c`. -/
def mark (c : Char) : Scanner Unit := fun cs =>
  match Text.dropBlanks cs with
  | d :: rest => if c = d then some ((), rest) else none
  | [] => none

/-- The fraction of a second, if there is one: nanoseconds from the first nine digits. -/
def fractionField : Scanner Nat
  | '.' :: cs =>
    (digits 9 cs).map fun (n, rest) =>
      (n * Nat.pow 10 (9 - (cs.length - rest.length)), rest.dropWhile Char.isDigit)
  | cs => some (0, cs)

/-- Two digits, as they stand. -/
def twoDigits : Scanner Nat
  | a :: b :: rest => (Text.digitsValue? [a, b]).map fun n => (n, rest)
  | _ => none

/-- Blanks, then an offset from universal time in minutes: `Z`, `UTC` or a sign, hours and minutes.
-/
def offsetField : Scanner Int := fun cs =>
  let signed (sign : Int) (cs : List Char) : Option (Int × List Char) := do
    let (hours, cs) ← twoDigits cs
    let (minutes, cs) ← twoDigits (cs.dropWhile fun c => c = ':' || Text.isBlank c)
    if minutes ≤ 59 then some (sign * (60 * hours + minutes : Nat), cs) else none
  match Text.dropBlanks cs with
  | 'Z' :: rest | 'z' :: rest => some (0, rest)
  | '+' :: rest => signed 1 rest
  | '-' :: rest | '\u2212' :: rest => signed (-1) rest
  | u :: t :: c :: rest =>
    if u.toUpper = 'U' ∧ t.toUpper = 'T' ∧ c.toUpper = 'C' then some (0, rest) else none
  | _ => none

/-- An instant from the fields of its text, if they are in range. -/
def ofFields? (date : Calendar.Date) (hour minute second nanos : Nat) (offset : Int) :
    Option Instant :=
  if date.isValid ∧ -262143 ≤ date.year ∧ date.year ≤ 262142 ∧ hour ≤ 23 ∧ minute ≤ 59 ∧
      second ≤ 60 ∧ -1440 < offset ∧ offset < 1440 then
    let leap := second = 60
    ofParts?
      (date.number * 86400 + (3600 * hour + 60 * minute + (if leap then 59 else second) : Nat) -
        60 * offset)
      (if leap then nanos + 1000000000 else nanos)
  else none

/-- The instant of a text, which may have blanks behind it. -/
def parseChars? (cs : List Char) : Option Instant := do
  let (year, cs) ← yearField cs
  let ((), cs) ← mark '-' cs
  let (month, cs) ← field 2 cs
  let ((), cs) ← mark '-' cs
  let (day, cs) ← field 2 cs
  let cs ←
    match cs with
    | 'T' :: rest | 't' :: rest | ' ' :: rest => some rest
    | _ => none
  let (hour, cs) ← field 2 cs
  let ((), cs) ← mark ':' cs
  let (minute, cs) ← field 2 cs
  let ((), cs) ← mark ':' cs
  let (second, cs) ← field 2 cs
  let (nanos, cs) ← fractionField cs
  let (offset, cs) ← offsetField cs
  if Text.dropBlanks cs = [] then ofFields? ⟨year, month, day⟩ hour minute second nanos offset
  else none

/-- The instant of a text. -/
def parse? (s : String) : Option Instant := parseChars? s.toList

end Instant

end ManifestRegistry
