/-
**The proleptic Gregorian calendar.**

A day is numbered from the first of January 1970.  The year of a day is the one whose first day is
not after it while the next year's is; the month is found in the same way within the year.

Main definitions:

* `Calendar.isLeap`, `Calendar.monthLengths` — the shape of a year;
* `Calendar.yearStart` — the day on which a year begins;
* `Calendar.yearOf` — the year of a day;
* `Calendar.Date`, `Calendar.Date.day`, `Calendar.dateOf` — dates and their day numbers.
-/

set_option relaxedAutoImplicit false
set_option autoImplicit false

namespace ManifestRegistry

namespace Calendar

/-- Every fourth year is a leap year, of the full centuries only every fourth. -/
def isLeap (y : Int) : Bool := y % 4 = 0 && (y % 100 ≠ 0 || y % 400 = 0)

/-- The lengths of the months. -/
def monthLengths (leap : Bool) : List Nat :=
  [31, if leap then 29 else 28, 31, 30, 31, 30, 31, 31, 30, 31, 30, 31]

/-- The number of leap years before `y`, up to a constant. -/
def leapsBefore (y : Int) : Int := (y - 1) / 4 - (y - 1) / 100 + (y - 1) / 400

/-- The number of the first day of a year. -/
def yearStart (y : Int) : Int := 365 * (y - 1970) + (leapsBefore y - leapsBefore 1970)

/-- A year is 365 days long, or 366. -/
theorem yearStart_succ (y : Int) :
    yearStart (y + 1) = yearStart y + if isLeap y then 366 else 365 := by
  unfold yearStart leapsBefore isLeap
  split <;> rename_i h <;> simp at h <;> omega

/-- The year of a day: the estimate from the mean length of a year is off by at most one. -/
def yearOf (d : Int) : Int :=
  let guess := 1970 + d * 400 / 146097
  if d < yearStart guess then guess - 1
  else if yearStart (guess + 1) ≤ d then guess + 1
  else guess

/-- A year is never more than one off the estimate. -/
theorem yearStart_guess (d : Int) :
    yearStart (1970 + d * 400 / 146097 - 1) ≤ d ∧ d < yearStart (1970 + d * 400 / 146097 + 2) := by
  unfold yearStart leapsBefore
  omega

theorem yearOf_bounds (d : Int) :
    yearStart (yearOf d) ≤ d ∧ d < yearStart (yearOf d + 1) := by
  have h := yearStart_guess d
  unfold yearOf
  simp only
  split
  · rename_i hlt
    rw [Int.sub_add_cancel]
    exact ⟨h.1, hlt⟩
  · split
    · rename_i hge
      exact ⟨hge, by rw [Int.add_assoc]; exact h.2⟩
    · rename_i hge hlt
      exact ⟨Int.not_lt.1 hge, Int.not_le.1 hlt⟩

/-- A date: the month and the day of the month start at one. -/
structure Date where
  year : Int
  month : Nat
  day : Nat
deriving DecidableEq, Repr

/-- The days before each month of a year, first to last. -/
def daysBeforeMonth (leap : Bool) (month : Nat) : Nat :=
  ((monthLengths leap).take (month - 1)).foldl (· + ·) 0

/-- Whether the date exists. -/
def Date.isValid (d : Date) : Bool :=
  1 ≤ d.month && d.month ≤ 12 && 1 ≤ d.day &&
    d.day ≤ ((monthLengths (isLeap d.year))[d.month - 1]?).getD 0

/-- The number of a date's day. -/
def Date.number (d : Date) : Int :=
  yearStart d.year + daysBeforeMonth (isLeap d.year) d.month + (d.day - 1 : Nat)

/-- The month and the day of the month of a day of the year, both from one; `month` counts the
months already left behind. -/
def monthAndDay (month : Nat) (dayOfYear : Nat) : List Nat → Nat × Nat
  | [] => (month, dayOfYear + 1)
  | length :: more =>
    if dayOfYear < length then (month + 1, dayOfYear + 1)
    else monthAndDay (month + 1) (dayOfYear - length) more

/-- The date of a day. -/
def dateOf (n : Int) : Date :=
  let y := yearOf n
  let (m, d) := monthAndDay 0 (n - yearStart y).toNat (monthLengths (isLeap y))
  ⟨y, m, d⟩

end Calendar

end ManifestRegistry
