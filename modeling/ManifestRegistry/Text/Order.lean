/-
**The order of texts.**

Texts are ordered by their characters' code points from left to right, a beginning before the whole.

Main definitions:

* `Text.order` — that order;
* `Text.before` — whether a text is strictly before another.
-/

set_option relaxedAutoImplicit false
set_option autoImplicit false

namespace ManifestRegistry

namespace Text

/-- Texts in the order of their characters' code points, a beginning before the whole. -/
def order : List Char → List Char → Ordering
  | [], [] => .eq
  | [], _ :: _ => .lt
  | _ :: _, [] => .gt
  | a :: as, b :: bs => (compare a.toNat b.toNat).then (order as bs)

/-- Whether a text is strictly before another. -/
def before (a b : String) : Bool := order a.toList b.toList = .lt

@[simp] theorem order_self (cs : List Char) : order cs cs = .eq := by
  induction cs with
  | nil => rfl
  | cons c cs ih => simp [order, ih]

theorem order_swap (as bs : List Char) : (order as bs).swap = order bs as := by
  induction as generalizing bs with
  | nil => cases bs <;> rfl
  | cons a as ih =>
      cases bs with
      | nil => rfl
      | cons b bs => rw [order, order, Ordering.swap_then, Nat.compare_swap, ih]

end Text

end ManifestRegistry
