/-
**What writes to a list of records do.**

A write either goes through, and then says exactly which record is put where, or it leaves the list
alone.  The three writes of the list store are told here by when they go through and what they
leave behind; nothing else about them is needed later.  A commit writes twice and undoes the first
write if the second is refused, so seen as a whole it makes both or neither.

Main definitions:

* `Storage.Memory.demote`, `Storage.Memory.committed` — the records after a demotion and after a commit,
  seen as a whole.

Main results:

* `Storage.Memory.place?_eq_some` — the place of a version is the first record that is that version;
* `Storage.Memory.demote_eq_ok`, `Storage.Memory.insert_eq_ok` — when a demotion and an insertion go
  through;
* `Storage.Memory.committed_eq_ok` — **when a commit goes through, and what it does**;
* `Storage.Memory.commit_eq` — **a commit that is refused has undone what it did**.
-/

import ManifestRegistry.Storage.Memory

set_option relaxedAutoImplicit false
set_option autoImplicit false

namespace ManifestRegistry

namespace Storage

namespace Memory

variable {rs rs' : List Record}

/-- At its place a version is found. -/
theorem place?_eq_some {id : Uuid} {version : String} {i : Nat}
    (h : place? rs id version = some i) : ∃ r, rs[i]? = some r ∧ r.isVersion id version = true := by
  obtain ⟨hlt, hv, -⟩ := List.findIdx?_eq_some_iff_getElem.1 h
  exact ⟨rs[i], List.getElem?_eq_getElem hlt, hv⟩

theorem place?_isSome {id : Uuid} {version : String} {r : Record} (hr : r ∈ rs)
    (hv : r.isVersion id version = true) : ∃ i, place? rs id version = some i := by
  cases h : place? rs id version with
  | some i => exact ⟨i, rfl⟩
  | none =>
      have hnone := List.findIdx?_eq_none_iff.1 h r hr
      simp [hv] at hnone

/-- The records with the previous latest version demoted, if it still is the latest one. -/
def demote (records : List Record) (previous : Record) : Except StorageError (List Record) :=
  match place? records previous.id previous.version with
  | some i =>
    if (records[i]?.map Record.isLatest).getD false then .ok (records.set i previous)
    else .error (notLatest previous)
  | none => .error (notLatest previous)

/-- The records after a commit: the first record of the name tells whose name it is, then the
previous latest version is demoted, then the new version is added. -/
def committed (records : List Record) (record : Record) (previous : Option Record) :
    Except StorageError (List Record) := do
  match records.find? fun r => r.name = record.name with
  | some owner => if owner.id ≠ record.id then throw (ownedBy record owner.id)
  | none => pure ()
  let records ←
    match previous with
    | some p => demote records p
    | none => .ok records
  insert records record

/-- A demotion goes through if the version is flagged at its place. -/
theorem demote_eq_ok {p : Record} :
    demote rs p = .ok rs' ↔ ∃ i r, place? rs p.id p.version = some i ∧ rs[i]? = some r ∧
      r.isLatest = true ∧ rs' = rs.set i p := by
  unfold demote
  cases hp : place? rs p.id p.version with
  | none => simp
  | some i =>
      obtain ⟨r, hr, -⟩ := place?_eq_some hp
      simp only [hr, Option.map_some, Option.getD_some, Option.some.injEq]
      cases hl : r.isLatest with
      | true =>
          constructor
          · intro h
            injection h with h
            exact ⟨i, r, rfl, hr, hl, h.symm⟩
          · rintro ⟨j, s, rfl, -, -, rfl⟩
            rfl
      | false =>
          constructor
          · intro h
            simp at h
          · rintro ⟨j, s, rfl, hs, hflag, -⟩
            rw [hr] at hs
            injection hs with hs
            rw [hs, hflag] at hl
            simp at hl

/-- An insertion goes through if the name does not have the version and, for a flagged record, no
flagged record. -/
theorem insert_eq_ok {record : Record} :
    insert rs record = .ok rs' ↔
      (∀ r ∈ rs, r.name = record.name → r.version ≠ record.version) ∧
      (record.isLatest = true → ∀ r ∈ rs, r.name = record.name → r.isLatest = false) ∧
      rs' = rs ++ [record] := by
  unfold insert
  split
  · rename_i h
    simp only [List.any_eq_true, Bool.and_eq_true, decide_eq_true_eq] at h
    obtain ⟨r, hr, hn, hv⟩ := h
    simp only [reduceCtorEq, false_iff, not_and]
    exact fun hno => absurd hv (hno r hr hn)
  · rename_i h
    simp only [List.any_eq_true, Bool.and_eq_true, decide_eq_true_eq, not_exists, not_and] at h
    split
    · rename_i hl
      simp only [Bool.and_eq_true, List.any_eq_true, decide_eq_true_eq] at hl
      obtain ⟨hrec, r, hr, hn, hflag⟩ := hl
      simp only [reduceCtorEq, false_iff, not_and]
      exact fun _ hno => absurd (hno hrec r hr hn) (by simp [hflag])
    · rename_i hl
      simp only [Bool.and_eq_true, List.any_eq_true, decide_eq_true_eq, not_and, not_exists,
        Bool.not_eq_true] at hl
      simp only [Except.ok.injEq]
      constructor
      · intro he
        exact ⟨fun r hr hn hv => h r hr hn hv, fun hrec r hr hn => hl hrec r hr hn, he.symm⟩
      · rintro ⟨-, -, he⟩
        exact he.symm

/-- The records after the demotion that goes with a commit, if there is one. -/
def demoted (rs : List Record) : Option Record → Except StorageError (List Record)
  | some p => demote rs p
  | none => .ok rs

theorem mem_demoted {previous : Option Record} (h : demoted rs previous = .ok rs') {r : Record}
    (hr : r ∈ rs') : r ∈ rs ∨ previous = some r := by
  cases previous with
  | none =>
      obtain rfl : rs = rs' := Except.ok.inj h
      exact .inl hr
  | some p =>
      obtain ⟨i, s, -, -, -, rfl⟩ := demote_eq_ok.1 h
      rcases List.mem_or_eq_of_mem_set hr with hr | rfl
      · exact .inl hr
      · exact .inr rfl

theorem committed_eq {record : Record} {previous : Option Record} :
    committed rs record previous =
      match rs.find? fun r => r.name = record.name with
      | some owner =>
        if owner.id ≠ record.id then .error (ownedBy record owner.id)
        else (demoted rs previous).bind fun rs => insert rs record
      | none => (demoted rs previous).bind fun rs => insert rs record := by
  unfold committed demoted
  cases rs.find? fun r => r.name = record.name with
  | none => cases previous <;> rfl
  | some owner =>
      by_cases h : owner.id = record.id
      · simp only [h, ne_eq, not_true_eq_false, if_false]
        cases previous <;> rfl
      · simp only [h, ne_eq, not_false_eq_true, if_true]
        rfl

/-! ### Both writes or neither -/

/-- What a swap put in a place is taken away by the swap that it names. -/
theorem swap_undo (m : Memory) (change : Option (Nat × Record)) :
    ((m.swap change).2.swap (m.swap change).1).2 = m := by
  cases change with
  | none => rfl
  | some change =>
      obtain ⟨i, r⟩ := change
      by_cases hi : i < m.records.length
      · simp only [swap, List.getElem?_eq_getElem hi, Option.map_some, List.set_set,
          List.set_getElem_self]
      · have hle : m.records.length ≤ i := Nat.le_of_not_lt hi
        simp only [swap, List.getElem?_eq_none hle, Option.map_none, List.set_eq_of_length_le hle]

theorem demoted_eq (m : Memory) (previous : Option Record) : demoted m.records previous =
    (demotion? m.records previous).map fun change => (m.swap change).2.records := by
  cases previous with
  | none => rfl
  | some p =>
      simp only [demoted, demote, demotion?]
      cases place? m.records p.id p.version with
      | none => rfl
      | some i =>
          simp only
          split <;> rfl

theorem committed_eq_ownerFlaw {record : Record} {previous : Option Record} :
    committed rs record previous =
      match ownerFlaw? rs record with
      | some e => .error e
      | none => (demoted rs previous).bind fun rs => insert rs record := by
  rw [committed_eq, ownerFlaw?]
  cases rs.find? fun r => r.name = record.name with
  | none => rfl
  | some owner =>
      simp only
      split <;> rfl

/-- **A commit that is refused has undone what it did**: it leaves the records of the commit as a whole,
or the list as it was. -/
theorem commit_eq (m : Memory) (record : Record) (previous : Option Record) :
    m.commit record previous =
      if m.closed then (refuseClosed, m)
      else
        match committed m.records record previous with
        | .ok records => (.ok record, { m with records })
        | .error e => (refuse e, m) := by
  unfold commit
  split
  · rfl
  · rw [committed_eq_ownerFlaw, demoted_eq]
    cases ownerFlaw? m.records record with
    | some e => rfl
    | none =>
        cases demotion? m.records previous with
        | error e => rfl
        | ok change =>
            simp only [Except.map, Except.bind]
            cases insert (m.swap change).2.records record with
            | error e => simp only [swap_undo]
            | ok records =>
                cases change <;> rfl

/-- **When a commit goes through, and what it does**: the owner of the name, if there is one, must
have the record's identity, the demotion must go through, and then the insertion. -/
theorem committed_eq_ok {record : Record} {previous : Option Record} :
    committed rs record previous = .ok rs' ↔
      (∀ owner, rs.find? (fun r => r.name = record.name) = some owner → owner.id = record.id) ∧
      ∃ rs₁, demoted rs previous = .ok rs₁ ∧ insert rs₁ record = .ok rs' := by
  have hbind : ((demoted rs previous).bind fun rs => insert rs record) = .ok rs' ↔
      ∃ rs₁, demoted rs previous = .ok rs₁ ∧ insert rs₁ record = .ok rs' := by
    cases demoted rs previous <;> simp [Except.bind]
  rw [committed_eq]
  cases rs.find? fun r => r.name = record.name with
  | none => simp [hbind]
  | some owner =>
      by_cases h : owner.id = record.id
      · simp [h, hbind]
      · simp [h]

end Memory

end Storage

end ManifestRegistry
