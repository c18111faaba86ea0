/-
**Durations as text.**

A duration in milliseconds is written in seconds from one second up, with as many places as it
needs, below that in milliseconds, and nothing at all as zero nanoseconds.

Main definitions:

* `Text.duration` — the text of a number of milliseconds.
-/

import ManifestRegistry.Text.Decimal

set_option relaxedAutoImplicit false
set_option autoImplicit false

namespace ManifestRegistry

namespace Text

/-- The places of a thousandth without zeros at the end. -/
def thousandths (ms : Nat) : List Char :=
  ((padded 3 ms).reverse.dropWhile (· = '0')).reverse

/-- The text of a number of milliseconds. -/
def duration (ms : Nat) : String :=
  if ms = 0 then "0ns"
  else if ms < 1000 then toString ms ++ "ms"
  else if ms % 1000 = 0 then toString (ms / 1000) ++ "s"
  else toString (ms / 1000) ++ "." ++ String.ofList (thousandths (ms % 1000)) ++ "s"

end Text

end ManifestRegistry
