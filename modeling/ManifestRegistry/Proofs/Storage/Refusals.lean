/-
**Why a record is not taken.**

A record that is created may break two rules at once: its name has the version already, and it is flagged
although its name has a flagged record.  A list looks at the version first and a table at the flag.  So both
refuse a version that they have, but a table may call it a conflict, as if another writer had been faster.

Main definitions:

* `Label.Repeats`, `Label.Rivals` — the two rules that a label may break among others;
* `Storage.Verdict` — what is answered to a creation.

Main results:

* `Storage.Memory.verdict`, `Storage.Rows.verdict` — what an open store answers to a creation;
* `Storage.verdict_create` — **what is answered to a creation after any others**.
-/

import ManifestRegistry.Proofs.Registry.Owners

set_option relaxedAutoImplicit false
set_option autoImplicit false

namespace ManifestRegistry

/-! ### Two rules -/

namespace Label

/-- The name has the version. -/
def Repeats (l : Label) (ls : List Label) : Prop := ∃ a ∈ ls, a.name = l.name ∧ a.version = l.version

/-- The label is flagged, and the name has a flag. -/
def Rivals (l : Label) (ls : List Label) : Prop :=
  l.isLatest = true ∧ ∃ a ∈ ls, a.name = l.name ∧ a.isLatest = true

variable {α : Type} (label : α → Label) (l : Label) (as : List α)

/-- A search for the name and the version tells whether the label repeats one. -/
theorem any_repeats : (as.any fun a => (label a).name = l.name && (label a).version = l.version) = true ↔
    l.Repeats (as.map label) := by
  simp [Repeats]

/-- A search for a flagged entry of the name tells whether a flagged label has a rival. -/
theorem any_rivals : (l.isLatest && as.any fun a => (label a).name = l.name && (label a).isLatest) = true ↔
    l.Rivals (as.map label) := by
  simp [Rivals]

end Label

namespace Storage

/-! ### Answers to a creation -/

/-- What is answered to a creation: that the name has the version, that another record is flagged, or the
record, which is then taken. -/
structure Verdict (reply : Reply Record) (record : Record) (repeats rivals : Prop) : Prop where
  repeated : (∃ what, reply = refuse (.alreadyExists what)) ↔ repeats
  rivalled : (∃ reason, reply = refuse (.conflict reason)) ↔ rivals
  taken : reply = .ok record ↔ ¬repeats ∧ ¬rivals

namespace Verdict

variable {record : Record} {repeats rivals : Prop}

theorem of_repeated (what : String) (h : repeats) (hno : ¬rivals) :
    Verdict (refuse (.alreadyExists what)) record repeats rivals where
  repeated := iff_of_true ⟨what, rfl⟩ h
  rivalled := iff_of_false (by rintro ⟨_, ⟨⟩⟩) hno
  taken := iff_of_false (fun h => by cases h) fun hnone => hnone.1 h

theorem of_rivalled (reason : String) (h : rivals) (hno : ¬repeats) :
    Verdict (refuse (.conflict reason)) record repeats rivals where
  repeated := iff_of_false (by rintro ⟨_, ⟨⟩⟩) hno
  rivalled := iff_of_true ⟨reason, rfl⟩ h
  taken := iff_of_false (fun h => by cases h) fun hnone => hnone.2 h

theorem of_taken (hno : ¬repeats) (hno' : ¬rivals) : Verdict (.ok record) record repeats rivals where
  repeated := iff_of_false (by rintro ⟨_, ⟨⟩⟩) hno
  rivalled := iff_of_false (by rintro ⟨_, ⟨⟩⟩) hno'
  taken := iff_of_true rfl ⟨hno, hno'⟩

end Verdict

variable {record : Record} {now : Instant}

/-- **An open list tells of the version first.** -/
theorem Memory.verdict {m : Memory} (hopen : m.closed = false) :
    Verdict (Store.call (.create record) now m).1 record
      (record.label.Repeats (m.records.map Record.label))
      (record.label.Rivals (m.records.map Record.label) ∧
        ¬record.label.Repeats (m.records.map Record.label)) := by
  have hrepeats : (m.records.any fun r => r.name = record.name && r.version = record.version) = true ↔
      _ := Label.any_repeats Record.label record.label m.records
  have hrivals : (record.isLatest && m.records.any fun r => r.name = record.name && r.isLatest) = true ↔
      _ := Label.any_rivals Record.label record.label m.records
  simp only [Store.call, create, hopen, Bool.false_eq_true, if_false, insert]
  by_cases hrep : record.label.Repeats (m.records.map Record.label)
  · rw [if_pos (hrepeats.2 hrep)]
    exact .of_repeated _ hrep fun hriv => hriv.2 hrep
  · rw [if_neg fun h => hrep (hrepeats.1 h)]
    by_cases hriv : record.label.Rivals (m.records.map Record.label)
    · rw [if_pos (hrivals.2 hriv)]
      exact .of_rivalled _ ⟨hriv, hrep⟩ hrep
    · rw [if_neg fun h => hriv (hrivals.1 h)]
      exact .of_taken hrep fun h => hriv h.1

/-- **An open table tells of the flag first.** -/
theorem Rows.verdict {t : Rows} (hopen : t.closed = false) :
    Verdict (Store.call (.create record) now t).1 record
      (record.label.Repeats (t.rows.map Row.label) ∧ ¬record.label.Rivals (t.rows.map Row.label))
      (record.label.Rivals (t.rows.map Row.label)) := by
  have hrepeats : (t.rows.any fun r => r.name = (Row.ofRecord record).name &&
      r.version = (Row.ofRecord record).version) = true ↔ _ :=
    Label.any_repeats Row.label record.label t.rows
  have hrivals : ((Row.ofRecord record).isLatest && t.rows.any fun r =>
      r.name = (Row.ofRecord record).name && r.isLatest) = true ↔ _ :=
    Label.any_rivals Row.label record.label t.rows
  simp only [Store.call, create, hopen, Bool.false_eq_true, if_false, insert, checkBeside]
  by_cases hriv : record.label.Rivals (t.rows.map Row.label)
  · rw [if_pos (hrivals.2 hriv)]
    exact .of_rivalled _ hriv fun h => h.2 hriv
  · rw [if_neg fun h => hriv (hrivals.1 h)]
    by_cases hrep : record.label.Repeats (t.rows.map Row.label)
    · rw [if_pos (hrepeats.2 hrep)]
      exact .of_repeated _ ⟨hrep, hriv⟩ hriv
    · rw [if_neg fun h => hrep (hrepeats.1 h)]
      exact .of_taken (fun h => hrep h.1) hriv

/-- **What is answered to a creation after any others**, whatever was created and in whatever order: both
stores have the same records.  The list says that a version is there already exactly if it is, and speaks
of a conflict if it is not there and another record is flagged.  The table speaks of a conflict whenever
another record is flagged, whether or not the version is there. -/
theorem verdict_create (now now' : Instant) (records : List Record) (record : Record) :
    let m := Write.fill now ({} : Memory) (records.map .create)
    let t := Write.fill now ({} : Rows) (records.map .create)
    let repeats := record.label.Repeats (m.records.map Record.label)
    let rivals := record.label.Rivals (m.records.map Record.label)
    t.rows = m.records.map Row.ofRecord ∧
    Verdict (Store.call (.create record) now' m).1 record repeats (rivals ∧ ¬repeats) ∧
    Verdict (Store.call (.create record) now' t).1 record (repeats ∧ ¬rivals) rivals := by
  obtain ⟨rs, -, -, hlist, htable⟩ := Write.fill_creates now records
  intro m t repeats rivals
  have hm : m = ⟨rs, false⟩ := hlist
  have ht : t = ⟨rs.map Row.ofRecord, false⟩ := htable
  have hlabels : t.rows.map Row.label = m.records.map Record.label := by
    rw [hm, ht, List.map_map]
    rfl
  refine ⟨by rw [hm, ht], Memory.verdict (by rw [hm]), ?_⟩
  rw [show repeats = record.label.Repeats (t.rows.map Row.label) by rw [hlabels],
    show rivals = record.label.Rivals (t.rows.map Row.label) by rw [hlabels]]
  exact Rows.verdict (by rw [ht])

open Write

/-- **A version that is there may be called a conflict**: the table is asked to add the first version
twice. -/
theorem exists_repeated_conflict :
    let t := fill .epoch ({} : Rows) [.create first]
    (∃ row ∈ t.rows, row.name = first.name ∧ row.version = first.version) ∧
    (Store.call (.create first) .epoch t).1 = refuse Rows.secondLatest ∧
    ∀ what, (Store.call (.create first) .epoch t).1 ≠ refuse (.alreadyExists what) := by
  have hreply : (Store.call (.create first) .epoch (fill .epoch ({} : Rows) [.create first])).1 =
      refuse Rows.secondLatest := rfl
  refine ⟨⟨_, List.mem_cons_self, rfl, rfl⟩, hreply, fun what h => ?_⟩
  rw [hreply] at h
  cases h

end Storage

end ManifestRegistry
