/-
**Blank characters and trimming.**

A text counts as empty if nothing but blanks is in it, and values from an environment are read
without the blanks around them.  Blank means the Unicode property White_Space.

Main definitions:

* `Text.isBlank` — the characters with the property White_Space;
* `Text.dropBlanks`, `Text.trim` — a text without the blanks in front, or around it;
* `Text.isAllBlank` — whether nothing else is in a text.
-/

set_option relaxedAutoImplicit false
set_option autoImplicit false

namespace ManifestRegistry

namespace Text

/-- The characters with the Unicode property White_Space. -/
def isBlank (c : Char) : Bool :=
  let n := c.toNat
  (9 ≤ n && n ≤ 13) || n = 0x20 || n = 0x85 || n = 0xA0 || n = 0x1680 ||
    (0x2000 ≤ n && n ≤ 0x200A) || n = 0x2028 || n = 0x2029 || n = 0x202F || n = 0x205F ||
    n = 0x3000

/-- Without the blanks in front. -/
def dropBlanks (cs : List Char) : List Char := cs.dropWhile isBlank

/-- Without the blanks at either end. -/
def trimChars (cs : List Char) : List Char := (dropBlanks (dropBlanks cs).reverse).reverse

/-- Without the blanks at either end. -/
def trim (s : String) : String := String.ofList (trimChars s.toList)

/-- Whether a text holds nothing but blanks. -/
def isAllBlank (s : String) : Bool := s.toList.all isBlank

end Text

end ManifestRegistry
