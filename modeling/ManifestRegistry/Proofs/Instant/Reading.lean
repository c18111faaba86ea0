/-
**What a clock shows.**

A clock counts the nanoseconds of a second; only in a leap second, which ends a minute, does it go on
past a thousand million.  The texts of such instants lose nothing.

Main definitions:

* `Instant.IsReading` — an instant that a clock can show;
* `Instant.IsTick` — one that a clock shows that counts no leap seconds;
* `Record.IsDated` — a record whose instants are all of this kind.

Main results:

* `Instant.before_minusHours` — **going back by the same time turns no two instants round**.
-/

import ManifestRegistry.Record.Basic

set_option relaxedAutoImplicit false
set_option autoImplicit false

namespace ManifestRegistry

/-- An instant that a clock can show: a leap second ends a minute. -/
def Instant.IsReading (i : Instant) : Prop := 1000000000 ≤ i.nanos → i.seconds % 60 = 59

instance (i : Instant) : Decidable i.IsReading := by
  unfold Instant.IsReading
  infer_instance

/-- An instant that is not in a leap second.  A clock that counts the seconds of days of one length shows
no others. -/
def Instant.IsTick (i : Instant) : Prop := i.nanos < 1000000000

instance (i : Instant) : Decidable i.IsTick := by
  unfold Instant.IsTick
  infer_instance

theorem Instant.IsTick.isReading {i : Instant} (h : i.IsTick) : i.IsReading :=
  fun hleap => absurd h (Nat.not_lt.2 hleap)

/-- Instants are compared by their seconds first. -/
theorem Instant.before_iff {a b : Instant} : a.before b = true ↔
    a.seconds < b.seconds ∨ a.seconds = b.seconds ∧ a.nanos < b.nanos := by
  rw [before, decide_eq_true_eq, order, Ordering.then_eq_lt, Int.compare_eq_lt, Int.compare_eq_eq,
    Nat.compare_eq_lt]

theorem Instant.before_trans_eq_false {a b c : Instant} (hab : b.before a = false)
    (hbc : c.before b = false) : c.before a = false := by
  rw [Bool.eq_false_iff, ne_eq, before_iff] at hab hbc ⊢
  omega

theorem Instant.parts_of_ofParts? {seconds : Int} {nanos : Nat} {i : Instant}
    (h : ofParts? seconds nanos = some i) : i.seconds = seconds ∧ i.nanos = nanos := by
  unfold ofParts? at h
  split at h
  · obtain rfl := Option.some_inj.1 h
    exact ⟨rfl, rfl⟩
  · cases h

/-- **Going back by the same time turns no two instants round**, if the earlier one is not in a leap
second. -/
theorem Instant.before_minusHours {a b a' b' : Instant} {hours : Nat} (ha : a.IsTick)
    (hab : b.before a = false) (ha' : a.minusHours? hours = some a')
    (hb' : b.minusHours? hours = some b') : b'.before a' = false := by
  rw [Bool.eq_false_iff, ne_eq, before_iff] at hab ⊢
  unfold IsTick at ha
  unfold minusHours? at ha' hb'
  split at ha'
  · rename_i hzero
    rw [if_pos hzero] at hb'
    obtain rfl := Option.some_inj.1 ha'
    obtain rfl := Option.some_inj.1 hb'
    exact hab
  · rename_i hzero
    rw [if_neg hzero] at hb'
    rw [if_neg (Nat.not_le.2 ha)] at ha'
    obtain ⟨hs, hn⟩ := parts_of_ofParts? ha'
    split at hb'
    · obtain ⟨hs', hn'⟩ := parts_of_ofParts? hb'
      omega
    · obtain ⟨hs', hn'⟩ := parts_of_ofParts? hb'
      omega

/-- The instants of a registration are such that a clock can show them. -/
structure Registration.IsDated (g : Registration) : Prop where
  published : g.publishedAt.IsReading
  updated : g.updatedAt.IsReading
  released : ∀ i, g.releaseDate = some i → i.IsReading

/-- The instants of a record are such that a clock can show them. -/
def Record.IsDated (r : Record) : Prop := r.registration.IsDated

theorem Registration.isDated_new {id : Uuid} {now : Instant} {isLatest : Bool}
    (h : now.IsReading) : (Registration.new id now isLatest).IsDated where
  published := h
  updated := h
  released i hi := by
    obtain rfl : now = i := Option.some_inj.1 hi
    exact h

theorem Record.IsDated.demoted {r : Record} (h : r.IsDated) {now : Instant} (hn : now.IsReading) :
    (r.demoted now).IsDated where
  published := h.published
  updated := hn
  released := h.released

end ManifestRegistry
