/-
**Going back in time.**

Time goes on in nanoseconds since the beginning of 1970.  Going back by some hours leads to the instant so
many nanoseconds earlier, if there are instants that early; a clock can show it if it shows the present.

Main definitions:

* `Instant.elapsed` — the nanoseconds since the beginning of 1970;
* `Instant.Reaches` — there is an instant so many hours earlier;
* `Instant.Within` — not earlier than so many hours ago.

Main results:

* `Instant.exists_minusHours_iff`, `Instant.minusHours?_eq_some` — **when going back is possible, and
  where it leads**;
* `Instant.within_iff` — what is within the last hours, told from the nanoseconds;
* `Instant.minusHours?_day` — going back by a day stays within the years that instants may have.
-/

import ManifestRegistry.Proofs.Instant.Stamps

set_option relaxedAutoImplicit false
set_option autoImplicit false

namespace ManifestRegistry

namespace Instant

/-- The nanoseconds since the beginning of 1970. -/
def elapsed (i : Instant) : Int := i.seconds * 1000000000 + i.nanos

/-- There is an instant so many hours earlier. -/
def Reaches (i : Instant) (hours : Nat) : Prop :=
  firstSecond * 1000000000 ≤ i.elapsed - hours * 3600000000000

instance (i : Instant) (hours : Nat) : Decidable (i.Reaches hours) := by
  unfold Reaches
  infer_instance

/-- Not earlier than so many hours ago.  If there are no instants that early, none of them is. -/
def Within (now : Instant) (hours : Nat) (i : Instant) : Prop :=
  ∀ since, now.minusHours? hours = some since → i.before since = false

instance (now : Instant) (hours : Nat) (i : Instant) : Decidable (now.Within hours i) :=
  match h : now.minusHours? hours with
  | none => .isTrue fun since hs => by simp [hs] at h
  | some since => decidable_of_iff (i.before since = false)
      ⟨fun hno since' hs => Option.some_inj.1 (h.symm.trans hs) ▸ hno, fun hall => hall since h⟩

variable {i j : Instant} {hours : Nat}

/-! ### Where it leads -/

/-- An instant is made of parts that are in range, and of no others. -/
theorem ofParts?_eq_some_iff {seconds : Int} {nanos : Nat} : (∃ i, ofParts? seconds nanos = some i) ↔
    firstSecond ≤ seconds ∧ seconds < endSecond ∧ nanos < nanoLimit := by
  unfold ofParts?
  split
  · rename_i h
    simp [h]
  · rename_i h
    simp [h]

/-- The parts of the time some hours earlier: from within a leap second, time goes back from the second
behind it. -/
theorem minusHours?_cases (h : hours ≠ 0) : ∃ seconds nanos, i.minusHours? hours = ofParts? seconds nanos ∧
    seconds * 1000000000 + nanos = i.elapsed - hours * 3600000000000 ∧ nanos < 1000000000 ∧
    seconds < i.seconds := by
  have hn := i.nanos_lt
  unfold nanoLimit at hn
  unfold minusHours? elapsed
  rw [if_neg h]
  by_cases hleap : 1000000000 ≤ i.nanos
  · rw [if_pos hleap]
    exact ⟨_, _, rfl, by omega, by omega, by omega⟩
  · rw [if_neg hleap]
    exact ⟨_, _, rfl, by omega, by omega, by omega⟩

/-- **When going back is possible.** -/
theorem exists_minusHours_iff : (∃ j, i.minusHours? hours = some j) ↔ i.Reaches hours := by
  unfold Reaches
  by_cases hzero : hours = 0
  · have hfirst := i.first_le
    unfold minusHours? elapsed
    rw [if_pos hzero]
    refine iff_of_true ⟨i, rfl⟩ ?_
    omega
  · obtain ⟨seconds, nanos, heq, helapsed, htick, hless⟩ := minusHours?_cases (i := i) hzero
    have hend := i.lt_end
    rw [heq, ofParts?_eq_some_iff]
    unfold nanoLimit
    omega

theorem minusHours?_eq_none_iff : i.minusHours? hours = none ↔ ¬i.Reaches hours := by
  rw [← exists_minusHours_iff, ← Option.isSome_iff_exists, Option.not_isSome_iff_eq_none]

/-- **Where going back leads**: by nothing it stays put, else it leads to an earlier second. -/
theorem minusHours?_eq_some (h : i.minusHours? hours = some j) :
    j.elapsed = i.elapsed - hours * 3600000000000 ∧
      (hours = 0 ∧ j = i ∨ j.IsTick ∧ j.seconds < i.seconds) := by
  by_cases hzero : hours = 0
  · rw [minusHours?, if_pos hzero] at h
    obtain rfl := Option.some_inj.1 h
    exact ⟨by omega, .inl ⟨hzero, rfl⟩⟩
  · obtain ⟨seconds, nanos, heq, helapsed, htick, hless⟩ := minusHours?_cases (i := i) hzero
    obtain ⟨hs, hn⟩ := parts_of_ofParts? (heq.symm.trans h)
    rw [elapsed, IsTick, hs, hn]
    exact ⟨helapsed, .inr ⟨htick, hless⟩⟩

theorem year_minusHours_le (h : i.minusHours? hours = some j) : j.year ≤ i.year := by
  rcases (minusHours?_eq_some h).2 with ⟨-, rfl⟩ | ⟨-, hless⟩
  · exact Int.le_refl _
  · exact year_mono (Int.le_of_lt hless)

theorem isReading_minusHours (h : i.minusHours? hours = some j) (hi : i.IsReading) :
    j.IsReading := by
  rcases (minusHours?_eq_some h).2 with ⟨-, rfl⟩ | ⟨htick, -⟩
  · exact hi
  · exact htick.isReading

/-! ### Within the last hours -/

theorem before_iff_elapsed (hi : i.IsTick) (hj : j.IsTick) :
    i.before j = true ↔ i.elapsed < j.elapsed := by
  rw [before_iff]
  unfold IsTick at hi hj
  unfold elapsed
  omega

/-- **What is within the last hours**, told from the nanoseconds. -/
theorem within_iff {now : Instant} (hnow : now.IsTick) (hi : i.IsTick) :
    now.Within hours i ↔ now.elapsed - hours * 3600000000000 ≤ i.elapsed := by
  unfold Within
  cases hsince : now.minusHours? hours with
  | none =>
      have hfirst := i.first_le
      have hfar := minusHours?_eq_none_iff.1 hsince
      unfold Reaches at hfar
      refine iff_of_true (fun since hs => by cases hs) ?_
      unfold elapsed at hfar ⊢
      omega
  | some since =>
      obtain ⟨helapsed, hparts⟩ := minusHours?_eq_some hsince
      have htick : since.IsTick := by
        rcases hparts with ⟨-, rfl⟩ | ⟨htick, -⟩
        · exact hnow
        · exact htick
      simp only [Option.some.injEq, forall_eq']
      rw [← helapsed, Bool.eq_false_iff, ne_eq, before_iff_elapsed hi htick, Int.not_lt]

/-! ### Early instants -/

/-- The first instant that there is. -/
def earliest : Instant := (ofParts? firstSecond 0).getD .epoch

theorem order_earliest (i : Instant) : i.order earliest ≠ .lt := by
  have hfirst := i.first_le
  have hparts : earliest.seconds = firstSecond ∧ earliest.nanos = 0 := by decide
  simp only [order, hparts, ne_eq, Ordering.then_eq_lt, Int.compare_eq_lt, Nat.compare_eq_lt]
  omega

/-- The beginning of the last year before the year 0. -/
def lastBeforeEra : Instant := (ofParts? (Calendar.yearStart (-1) * 86400) 0).getD .epoch

/-- Going back by a day from an instant in the era is possible, and leads to what a clock can show. -/
theorem minusHours?_day (h : i.InEra) :
    ∃ since, i.minusHours? 24 = some since ∧ since.IsReading ∧ since.year ≤ 9999 := by
  have hstart := (Calendar.yearOf_bounds (i.seconds / 86400)).1
  have hmono := Calendar.yearStart_mono h.1
  have hzero : Calendar.yearStart 0 = -719528 := rfl
  have hfirst : firstSecond = -8334601228800 := by decide
  have hreach : i.Reaches 24 := by
    unfold year at hmono
    unfold Reaches elapsed
    omega
  obtain ⟨since, hsince⟩ := exists_minusHours_iff.2 hreach
  refine ⟨since, hsince, ?_, Int.le_trans (year_minusHours_le hsince) h.2⟩
  rcases (minusHours?_eq_some hsince).2 with ⟨hno, -⟩ | ⟨htick, -⟩
  · cases hno
  · exact htick.isReading

end Instant

end ManifestRegistry
