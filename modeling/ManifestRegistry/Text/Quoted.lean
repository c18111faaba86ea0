/-
**Quoted text in messages.**

A text inside a message stands in double quotes; quotes, backslashes and the usual controls have a
short escape, and a character that cannot be shown is given by its code point.

Main definitions:

* `Text.quoteChar` — a character inside the quotes;
* `Text.quoted` — a text in quotes.
-/

import ManifestRegistry.Text.Unprintable

set_option relaxedAutoImplicit false
set_option autoImplicit false

namespace ManifestRegistry

namespace Text

/-- Whether a character is shown as it is. -/
def isPrintable (c : Char) : Bool :=
  if c.toNat < 0x80 then 0x20 ≤ c.toNat && c.toNat < 0x7f else !unprintable.has c

/-- A character inside the quotes. -/
def quoteChar (c : Char) : List Char :=
  if c = '\x00' then ['\x5c', '0']
  else if c = '\x09' then ['\x5c', 't']
  else if c = '\x0d' then ['\x5c', 'r']
  else if c = '\x0a' then ['\x5c', 'n']
  else if c = '\x22' ∨ c = '\x5c' then ['\x5c', c]
  else if isPrintable c then [c]
  else ['\x5c', 'u', '\x7b'] ++ Nat.toDigits 16 c.toNat ++ ['\x7d']

/-- A text in quotes. -/
def quoted (s : String) : String :=
  String.ofList ('\x22' :: (s.toList.flatMap quoteChar ++ ['\x22']))

end Text

end ManifestRegistry
