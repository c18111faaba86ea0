/-
**Instants.**

An instant is a number of seconds since the beginning of 1970 in universal time and a number of
nanoseconds.  A thousand million nanoseconds and more mean the leap second after that second.
Instants are limited to the years from -262143 to 262142.

Main definitions:

* `Instant` — an instant;
* `Instant.ofParts?` — the instant of seconds and nanoseconds, if it is in range;
* `Instant.order` — chronological order;
* `Instant.minusHours?` — an instant so many hours earlier.

Main results:

* `Instant.order_eq_iff`, `Instant.order_swap` — the order is antisymmetric.
-/

import ManifestRegistry.Instant.Calendar

set_option relaxedAutoImplicit false
set_option autoImplicit false

namespace ManifestRegistry

namespace Instant

/-- The first second that an instant may have: the beginning of the year -262143. -/
def firstSecond : Int := Calendar.yearStart (-262143) * 86400

/-- The second after the last one that an instant may have: the beginning of the year 262143. -/
def endSecond : Int := Calendar.yearStart 262143 * 86400

/-- The nanoseconds of a second and of the leap second behind it. -/
def nanoLimit : Nat := 2000000000

end Instant

/-- An instant in universal time. -/
structure Instant where
  seconds : Int
  nanos : Nat
  first_le : Instant.firstSecond ≤ seconds
  lt_end : seconds < Instant.endSecond
  nanos_lt : nanos < Instant.nanoLimit
deriving DecidableEq, Repr

namespace Instant

/-- The instant of seconds and nanoseconds, if it is in range. -/
def ofParts? (seconds : Int) (nanos : Nat) : Option Instant :=
  if h : firstSecond ≤ seconds ∧ seconds < endSecond ∧ nanos < nanoLimit then
    some ⟨seconds, nanos, h.1, h.2.1, h.2.2⟩
  else none

/-- The beginning of 1970. -/
def epoch : Instant := ⟨0, 0, by decide, by decide, by decide⟩

instance : Inhabited Instant := ⟨epoch⟩

theorem eq_of_parts {a b : Instant} (hs : a.seconds = b.seconds) (hn : a.nanos = b.nanos) :
    a = b := by
  cases a; cases b; simp_all

/-! ### Chronological order -/

/-- Chronological order. -/
def order (a b : Instant) : Ordering :=
  (compare a.seconds b.seconds).then (compare a.nanos b.nanos)

/-- Whether `a` is strictly before `b`. -/
def before (a b : Instant) : Bool := a.order b = .lt

@[simp] theorem order_self (a : Instant) : a.order a = .eq := by
  simp [order]

/-- Two instants tie exactly if they are equal. -/
theorem order_eq_iff {a b : Instant} : a.order b = .eq ↔ a = b := by
  constructor
  · intro h
    unfold order at h
    cases hs : compare a.seconds b.seconds <;> rw [hs] at h <;> simp [Ordering.then] at h
    exact eq_of_parts (by simpa using hs) (by simpa using h)
  · rintro rfl
    exact order_self a

/-- The order turned round. -/
theorem order_swap (a b : Instant) : (a.order b).swap = b.order a := by
  unfold order
  rw [Ordering.swap_then, Int.compare_swap, Nat.compare_swap]

/-! ### Arithmetic -/

/-- The instant so many hours earlier, if it is in range.  Going back from within a leap second
starts at the second after it; going back by nothing stays put. -/
def minusHours? (i : Instant) (hours : Nat) : Option Instant :=
  if hours = 0 then some i
  else if 1000000000 ≤ i.nanos then
    ofParts? (i.seconds + 1 - 3600 * hours) (i.nanos - 1000000000)
  else ofParts? (i.seconds - 3600 * hours) i.nanos

end Instant

end ManifestRegistry
