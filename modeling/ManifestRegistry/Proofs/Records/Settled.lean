/-
**Records that no clock dates.**

Nothing keeps an instant from being in a leap second that does not end a minute.  No clock shows such an
instant, and its text is that of the second behind it.  So whatever a record holds, its text is that of a
dated one, and what is read of a row is what the dated one says.

Main definitions:

* `Instant.settled`, `Record.settled` — an instant that a clock can show, and a record that is dated, in
  place of one that is not.

Main results:

* `Instant.text_settled`, `Record.text_settled` — **they have the same text**;
* `Instant.stamp_settled` — and the same stamp;
* `Storage.Row.record?_of_document` — what is read of a row with the document of any record.
-/

import ManifestRegistry.Proofs.Storage.Rows

set_option relaxedAutoImplicit false
set_option autoImplicit false

namespace ManifestRegistry

/-! ### Instants -/

namespace Instant

theorem endSecond_mod : endSecond % 60 = 0 := by decide

/-- An instant that a clock can show, with the text of another. -/
def settled (i : Instant) : Instant :=
  if h : i.IsReading then i
  else
    { seconds := i.seconds + 1
      nanos := i.nanos - 1000000000
      first_le := by have := i.first_le; omega
      lt_end := by
        have hlt := i.lt_end
        have hend := endSecond_mod
        unfold IsReading at h
        omega
      nanos_lt := by have := i.nanos_lt; omega }

theorem settled_of_isReading {i : Instant} (h : i.IsReading) : i.settled = i := dif_pos h

theorem isReading_settled (i : Instant) : i.settled.IsReading := by
  by_cases h : i.IsReading
  · rw [settled_of_isReading h]
    exact h
  · have hlt := i.nanos_lt
    unfold nanoLimit at hlt
    rw [settled, dif_neg h]
    intro hleap
    simp only at hleap
    omega

theorem shown_settled (i : Instant) :
    i.settled.clockChars = i.clockChars ∧ i.settled.fraction = i.fraction := by
  by_cases h : i.IsReading
  · rw [settled_of_isReading h]
    exact ⟨rfl, rfl⟩
  · have hlt := i.nanos_lt
    unfold nanoLimit at hlt
    rw [settled, dif_neg h]
    unfold IsReading at h
    -- the second behind is one of the same minute, so only the seconds shown could differ
    have hday : (i.seconds + 1) / 86400 = i.seconds / 86400 := by omega
    have htime : ((i.seconds + 1) % 86400).toNat = (i.seconds % 86400).toNat + 1 := by omega
    have hhour : ((i.seconds % 86400).toNat + 1) / 3600 = (i.seconds % 86400).toNat / 3600 := by omega
    have hminute : ((i.seconds % 86400).toNat + 1) / 60 % 60 = (i.seconds % 86400).toNat / 60 % 60 := by
      omega
    have hsecond : ((i.seconds % 86400).toNat + 1) % 60 + (i.nanos - 1000000000) / 1000000000 =
        (i.seconds % 86400).toNat % 60 + i.nanos / 1000000000 := by omega
    constructor
    · simp only [clockChars, hday, htime, hhour, hminute, hsecond]
    · simp only [fraction]
      omega

/-- **An instant has the text of one that a clock can show.** -/
theorem text_settled (i : Instant) : i.settled.text = i.text := by
  unfold text chars
  rw [i.shown_settled.1, i.shown_settled.2]

theorem stampChars_settled (i : Instant) : i.settled.stampChars = i.stampChars := by
  unfold stampChars
  rw [i.shown_settled.1, i.shown_settled.2]

theorem stamp_settled (i : Instant) : i.settled.stamp = i.stamp := by
  rw [stamp, stamp, stampChars_settled]

end Instant

/-! ### Records -/

/-- The registration with instants that a clock can show. -/
def Registration.settled (g : Registration) : Registration :=
  { g with
    publishedAt := g.publishedAt.settled
    updatedAt := g.updatedAt.settled
    releaseDate := g.releaseDate.map Instant.settled }

theorem Registration.isDated_settled (g : Registration) : g.settled.IsDated where
  published := g.publishedAt.isReading_settled
  updated := g.updatedAt.isReading_settled
  released i hi := by
    obtain ⟨j, -, rfl⟩ := Option.map_eq_some_iff.1 hi
    exact j.isReading_settled

theorem Registration.settled_of_isDated {g : Registration} (h : g.IsDated) : g.settled = g := by
  have hreleased : g.releaseDate.map Instant.settled = g.releaseDate := by
    cases hg : g.releaseDate with
    | none => rfl
    | some i => rw [Option.map_some, Instant.settled_of_isReading (h.released i hg)]
  rw [settled, Instant.settled_of_isReading h.published, Instant.settled_of_isReading h.updated,
    hreleased]

theorem Registration.json_settled (g : Registration) : g.settled.json = g.json := by
  have hreleased : optionalEntry "release_date" instantJson g.settled.releaseDate =
      optionalEntry "release_date" instantJson g.releaseDate := by
    show optionalEntry _ _ (g.releaseDate.map Instant.settled) = _
    cases g.releaseDate with
    | none => rfl
    | some i => simp only [Option.map_some, optionalEntry, instantJson, Instant.text_settled]
  rw [json, json, hreleased]
  simp only [settled, instantJson, Instant.text_settled]

namespace Record

/-- The record with instants that a clock can show. -/
def settled (r : Record) : Record := { r with registration := r.registration.settled }

@[simp] theorem name_settled (r : Record) : r.settled.name = r.name := rfl

@[simp] theorem version_settled (r : Record) : r.settled.version = r.version := rfl

@[simp] theorem id_settled (r : Record) : r.settled.id = r.id := rfl

@[simp] theorem isLatest_settled (r : Record) : r.settled.isLatest = r.isLatest := rfl

@[simp] theorem publishedAt_settled (r : Record) : r.settled.publishedAt = r.publishedAt.settled := rfl

@[simp] theorem updatedAt_settled (r : Record) : r.settled.updatedAt = r.updatedAt.settled := rfl

theorem isDated_settled (r : Record) : r.settled.IsDated := r.registration.isDated_settled

theorem settled_of_isDated {r : Record} (h : r.IsDated) : r.settled = r := by
  rw [settled, Registration.settled_of_isDated h]

theorem json_settled (r : Record) : r.settled.json = r.json := by
  have hentries : r.settled.entries = r.entries := by
    rw [entries, entries, settled, Registration.json_settled]
  rw [json, json, hentries]

/-- **A record has the text of a dated one.** -/
theorem text_settled (r : Record) : r.settled.text = r.text := by rw [text, text, json_settled]

end Record

namespace Storage

/-- What is read of a row with the document of any record: the record, settled, with its bag read back
and the row's publisher. -/
theorem Row.record?_of_document {row : Row} {r : Record} (hdoc : row.document = r.text) :
    row.record? = match r.bag.reread with
      | .ok bag => .ok { r.settled with bag, publishedBy := row.publishedBy }
      | .error _ => .error (unreadable r.text) := by
  rw [Row.record?_of_text (hdoc.trans r.text_settled.symm) r.isDated_settled, r.text_settled]
  rfl

end Storage

end ManifestRegistry
