/-
**Stamps and time.**

Stamps are compared by their years first and within a year by what they show of the instants.  A leap second
that does not end a minute is shown as the second behind it.  Years are compared as texts: those with a plus
come first and those without a sign last, and behind a sign they are in the order of their leading digits,
which for years before 0 runs against time.  So stamps tell the order of time exactly if the years climb in
texts as they do in time and the instants are in the order in which they are shown.

Main results:

* `Instant.order_stampChars_settled` — **the order of any two stamps**;
* `Instant.order_stamp_iff` — when it is that of time, and when stamps are equal;
* `Instant.exists_misordered` — it is not always.
-/

import ManifestRegistry.Proofs.Instant.Stamps
import ManifestRegistry.Proofs.Records.Settled

set_option relaxedAutoImplicit false
set_option autoImplicit false

namespace ManifestRegistry

namespace Instant

variable {a b : Instant}

/-! ### Years -/

/-- A leap second that does not end a minute is in the year of the second behind it. -/
theorem year_settled (i : Instant) : i.settled.year = i.year := by
  by_cases h : i.IsReading
  · rw [settled_of_isReading h]
  · have hday : (i.seconds + 1) / 86400 = i.seconds / 86400 := by
      unfold IsReading at h
      omega
    rw [settled, dif_neg h, year, year, hday]

theorem order_of_year_ne (h : a.year ≠ b.year) : a.order b = compare a.year b.year := by
  rcases Int.lt_or_gt_of_ne h with hlt | hgt
  · rw [Int.compare_eq_lt.2 hlt, (order_of_year_lt hlt).1]
  · rw [Int.compare_eq_gt.2 hgt, ← order_swap, (order_of_year_lt hgt).1]
    rfl

/-! ### Stamps -/

/-- Within a year, what stamps show is in the order of the instants, if a clock can show them. -/
theorem order_afterYear_eq (hyear : a.year = b.year) (hra : a.IsReading) (hrb : b.IsReading) :
    Text.order a.afterYear b.afterYear = a.order b := by
  have hlt := order_afterYear_iff hyear hra hrb
  have hgt := order_afterYear_iff hyear.symm hrb hra
  rw [← Text.order_swap, ← order_swap, Ordering.swap_eq_lt, Ordering.swap_eq_lt] at hgt
  cases htext : Text.order a.afterYear b.afterYear with
  | lt => exact (hlt.1 htext).symm
  | gt => exact (hgt.1 htext).symm
  | eq =>
      rw [htext] at hlt hgt
      cases htime : a.order b with
      | lt => cases hlt.2 htime
      | gt => cases hgt.2 htime
      | eq => rfl

/-- **Stamps are in the order that their years have in texts, and within a year in that of the instants as
they are shown.** -/
theorem order_stampChars_settled (a b : Instant) :
    Text.order a.stampChars b.stampChars =
      (yearOrder a.year b.year).then (a.settled.order b.settled) := by
  rw [← a.stampChars_settled, ← b.stampChars_settled, order_stampChars, year_settled, year_settled]
  by_cases hyear : a.year = b.year
  · rw [order_afterYear_eq (by rw [year_settled, year_settled, hyear]) a.isReading_settled
      b.isReading_settled]
  · rw [yearOrder_then hyear, yearOrder_then hyear]

/-- **Stamps are in the order of time exactly if the later year does not come first in texts and the instants
are in the order in which they are shown; equal stamps are those of instants shown alike.** -/
theorem order_stamp_iff (a b : Instant) :
    (Text.order a.stamp.toList b.stamp.toList = a.order b ↔
      a.settled.order b.settled = a.order b ∧
        (a.year < b.year → Climbs a.year b.year) ∧ (b.year < a.year → Climbs b.year a.year)) ∧
    (a.stamp = b.stamp ↔ a.settled = b.settled) := by
  have htext : Text.order a.stamp.toList b.stamp.toList =
      (yearOrder a.year b.year).then (a.settled.order b.settled) := by
    rw [stamp, stamp, String.toList_ofList, String.toList_ofList, order_stampChars_settled]
  constructor
  · rw [htext, ← yearOrder_eq_compare_iff]
    by_cases hyear : a.year = b.year
    · have htie : yearOrder a.year b.year = .eq := yearOrder_eq_eq_iff.2 hyear
      have hsame : compare a.year b.year = .eq := Int.compare_eq_eq.2 hyear
      rw [htie, hsame, Ordering.eq_then]
      exact (and_iff_left rfl).symm
    · -- both the instants and the instants as they are shown are in the order of the years
      have hshown : a.settled.order b.settled = a.order b := by
        rw [order_of_year_ne hyear, order_of_year_ne (by rwa [year_settled, year_settled]),
          year_settled, year_settled]
      rw [yearOrder_then hyear, hshown, order_of_year_ne hyear]
      exact (and_iff_right rfl).symm
  · constructor
    · intro h
      rw [h, Text.order_self, eq_comm, Ordering.then_eq_eq] at htext
      exact order_eq_iff.1 htext.2
    · intro h
      rw [← a.stamp_settled, ← b.stamp_settled, h]

/-- The year 10000 comes before the year 9999 in stamps, and the leap second of the first second of 1970 has
the stamp of the second one. -/
theorem exists_misordered :
    (∃ a b : Instant, a.order b = .lt ∧ Text.order a.stamp.toList b.stamp.toList = .gt) ∧
      ∃ a b : Instant, a ≠ b ∧ a.stamp = b.stamp :=
  ⟨⟨⟨253402300799, 0, by decide, by decide, by decide⟩,
      ⟨253402300800, 0, by decide, by decide, by decide⟩, by decide, by decide +kernel⟩,
    ⟨⟨0, 1000000000, by decide, by decide, by decide⟩, ⟨1, 0, by decide, by decide, by decide⟩,
      by decide, by decide +kernel⟩⟩

end Instant

end ManifestRegistry
