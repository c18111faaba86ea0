/-
**Dates and day numbers.**

Main results:

* `Calendar.number_dateOf`, `Calendar.isValid_dateOf` — **the date of a day is a date, and its day is
  that day**;
* `Calendar.yearStart_mono`, `Calendar.le_yearOf`, `Calendar.yearOf_lt` — years grow with days;
* `Calendar.before_dateOf_iff` — **dates are in the order of their days**.
-/

import ManifestRegistry.Instant.Calendar

set_option relaxedAutoImplicit false
set_option autoImplicit false

namespace ManifestRegistry

namespace Calendar

/-! ### Years -/

/-- Later years begin later. -/
theorem yearStart_mono {y z : Int} (h : y ≤ z) : yearStart y ≤ yearStart z := by
  unfold yearStart leapsBefore
  omega

/-- A day that is not before the beginning of a year is in that year or a later one. -/
theorem le_yearOf {y d : Int} (h : yearStart y ≤ d) : y ≤ yearOf d := by
  have hd := (yearOf_bounds d).2
  have hmono := fun hlt : yearOf d + 1 ≤ y => yearStart_mono hlt
  omega

/-- A day before the beginning of a year is in an earlier one. -/
theorem yearOf_lt {y d : Int} (h : d < yearStart y) : yearOf d < y := by
  have hd := (yearOf_bounds d).1
  have hmono := fun hle : y ≤ yearOf d => yearStart_mono hle
  omega

/-! ### Months -/

/-- The days of the first months. -/
def daysOf (lengths : List Nat) : Nat := lengths.foldl (· + ·) 0

theorem foldl_add (lengths : List Nat) (n : Nat) :
    lengths.foldl (· + ·) n = n + daysOf lengths := by
  induction lengths generalizing n with
  | nil => rfl
  | cons length more ih =>
      have hmore : daysOf (length :: more) = 0 + length + daysOf more := ih (0 + length)
      rw [List.foldl_cons, ih, hmore]
      omega

@[simp] theorem daysOf_cons (length : Nat) (more : List Nat) :
    daysOf (length :: more) = length + daysOf more := by
  rw [daysOf, List.foldl_cons, foldl_add]
  omega

/-- A day lies in the month that is found for it. -/
theorem monthAndDay_spec (lengths : List Nat) (month day : Nat) (h : day < daysOf lengths) :
    ∃ i length, lengths[i]? = some length ∧
      (monthAndDay month day lengths).1 = month + i + 1 ∧
      (monthAndDay month day lengths).2 ≤ length ∧ 1 ≤ (monthAndDay month day lengths).2 ∧
      daysOf (lengths.take i) + ((monthAndDay month day lengths).2 - 1) = day := by
  -- months are passed one by one as long as the day is behind them
  induction lengths generalizing month day with
  | nil => cases h
  | cons length more ih =>
      unfold monthAndDay
      split
      · rename_i hlt
        exact ⟨0, length, rfl, rfl, hlt, Nat.succ_le_succ (Nat.zero_le _), by simp [daysOf]⟩
      · rename_i hge
        rw [daysOf_cons] at h
        obtain ⟨i, len, hi, hmonth, hle, hpos, hsum⟩ := ih (month + 1) (day - length) (by omega)
        refine ⟨i + 1, len, hi, by omega, hle, hpos, ?_⟩
        rw [List.take_succ_cons, daysOf_cons]
        omega

/-- The months of a year have as many days as the year. -/
theorem daysOf_monthLengths (leap : Bool) : daysOf (monthLengths leap) = if leap then 366 else 365 := by
  cases leap <;> rfl

/-! ### Dates -/

/-- What is known of the date of a day: its month and day are found in its year. -/
theorem dateOf_spec (n : Int) : ∃ i length,
    (monthLengths (isLeap (yearOf n)))[i]? = some length ∧ (dateOf n).year = yearOf n ∧
      (dateOf n).month = i + 1 ∧ (dateOf n).day ≤ length ∧ 1 ≤ (dateOf n).day ∧
      (daysOf ((monthLengths (isLeap (yearOf n))).take i) + ((dateOf n).day - 1) : Nat) =
        n - yearStart (yearOf n) := by
  obtain ⟨hlow, hhigh⟩ := yearOf_bounds n
  rw [yearStart_succ] at hhigh
  have hday : (n - yearStart (yearOf n)).toNat < daysOf (monthLengths (isLeap (yearOf n))) := by
    rw [daysOf_monthLengths]
    split <;> rename_i hleap <;> simp only [hleap] at hhigh <;> simp at hhigh <;> omega
  obtain ⟨i, length, hi, hmonth, hle, hpos, hsum⟩ := monthAndDay_spec _ 0 _ hday
  refine ⟨i, length, hi, rfl, ?_, hle, hpos, ?_⟩
  · rw [dateOf]
    simp only [hmonth]
    omega
  · have hcast : ((n - yearStart (yearOf n)).toNat : Int) = n - yearStart (yearOf n) := by omega
    rw [← hcast]
    exact congrArg Int.ofNat hsum

/-- **The day of a day's date is that day.** -/
theorem number_dateOf (n : Int) : (dateOf n).number = n := by
  obtain ⟨i, length, -, hyear, hmonth, -, -, hsum⟩ := dateOf_spec n
  have hbefore : daysBeforeMonth (isLeap (yearOf n)) (i + 1) =
      daysOf ((monthLengths (isLeap (yearOf n))).take i) := rfl
  rw [Date.number, hyear, hmonth, hbefore]
  omega

/-- **The date of a day is a date.** -/
theorem isValid_dateOf (n : Int) : (dateOf n).isValid = true := by
  obtain ⟨i, length, hi, hyear, hmonth, hle, hpos, -⟩ := dateOf_spec n
  have hlt : i < 12 := by
    have := (List.getElem?_eq_some_iff.1 hi).1
    simpa [monthLengths] using this
  simp only [Date.isValid, hyear, hmonth, Nat.add_sub_cancel, hi, Option.getD_some,
    Bool.and_eq_true, decide_eq_true_eq]
  omega

theorem day_dateOf_le (n : Int) : (dateOf n).day ≤ 31 ∧ (dateOf n).month ≤ 12 := by
  obtain ⟨i, length, hi, -, hmonth, hle, -, -⟩ := dateOf_spec n
  have hall : ∀ leap, ∀ l ∈ monthLengths leap, l ≤ 31 := by decide
  have hlt := (List.getElem?_eq_some_iff.1 hi).1
  have hlen : (monthLengths (isLeap (yearOf n))).length = 12 := rfl
  exact ⟨Nat.le_trans hle (hall _ _ (List.mem_of_getElem? hi)), by omega⟩

/-! ### Dates in order -/

/-- A date is before another in the order of year, month and day. -/
def Date.Before (a b : Date) : Prop :=
  a.year < b.year ∨ a.year = b.year ∧ (a.month < b.month ∨ a.month = b.month ∧ a.day < b.day)

/-- The months before a month and the month itself are months before any later one. -/
theorem daysOf_take_add_le {lengths : List Nat} {i j length : Nat} (hij : i < j)
    (hi : lengths[i]? = some length) :
    daysOf (lengths.take i) + length ≤ daysOf (lengths.take j) := by
  induction lengths generalizing i j with
  | nil => simp at hi
  | cons first more ih =>
      cases j with
      | zero => omega
      | succ j =>
          cases i with
          | zero =>
              obtain rfl : first = length := by simpa using hi
              rw [List.take_succ_cons, daysOf_cons, List.take_zero]
              have hnil : daysOf [] = 0 := rfl
              omega
          | succ i =>
              have hmore := ih (Nat.lt_of_succ_lt_succ hij) (by simpa using hi)
              rw [List.take_succ_cons, List.take_succ_cons, daysOf_cons, daysOf_cons]
              omega

theorem before_dateOf {m n : Int} (h : m < n) : (dateOf m).Before (dateOf n) := by
  obtain ⟨i, length, hi, hyear, hmonth, hle, hpos, hsum⟩ := dateOf_spec m
  obtain ⟨j, length', hj, hyear', hmonth', hle', hpos', hsum'⟩ := dateOf_spec n
  have hyears : yearOf m ≤ yearOf n := by
    have hm := (yearOf_bounds m).1
    exact le_yearOf (by omega)
  rcases Int.lt_or_eq_of_le hyears with hlt | heq
  · exact .inl (by omega)
  · refine .inr ⟨by omega, ?_⟩
    rw [← heq] at hj hsum'
    rcases Nat.lt_trichotomy i j with hij | rfl | hij
    · exact .inl (by omega)
    · exact .inr ⟨by omega, by omega⟩
    · -- a later month would make the day a later one
      have hdays := daysOf_take_add_le hij hj
      omega

/-- **Dates are in the order of their days.** -/
theorem before_dateOf_iff {m n : Int} : (dateOf m).Before (dateOf n) ↔ m < n := by
  refine ⟨fun h => ?_, before_dateOf⟩
  rcases Int.lt_trichotomy m n with hlt | rfl | hgt
  · exact hlt
  · unfold Date.Before at h
    omega
  · have hback := before_dateOf hgt
    unfold Date.Before at h hback
    omega

end Calendar

end ManifestRegistry
