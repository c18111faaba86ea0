/-
**Sets of characters given by their boundaries.**

A set of characters that is a union of ranges is kept as the increasing list of the code points at
which membership changes.  A character belongs to it if it is behind an odd number of them.

Main definitions:

* `Text.Boundaries`, `Text.Boundaries.has` — such a set and its membership.
-/

set_option relaxedAutoImplicit false
set_option autoImplicit false

namespace ManifestRegistry

namespace Text

/-- The code points at which membership in a set changes, in increasing order; the first one begins
the set. -/
structure Boundaries where
  points : Array Nat

/-- Whether a character belongs to the set. -/
def Boundaries.has (b : Boundaries) (c : Char) : Bool := b.points.countP (· ≤ c.toNat) % 2 = 1

end Text

end ManifestRegistry
