/-
**A write does all or nothing.**

There are three ways to write to a store: to add a record, to put one in place of another, and to do both
in one commit.  Whatever the store holds by then and whatever is to be written, a write that is refused
leaves everything as it was, down to the places of the entries and the number that the next one is given;
a write that is not refused has done all that it was to do.  A commit to a list gets there by undoing its
demotion, whatever the reason for which the new version is refused; one to a table rolls back.

Main definitions:

* `Storage.Write` — what can be written; `Storage.Write.perform` — a write to a store;
* `Storage.Memory.Wrote`, `Storage.Rows.Wrote` — what a write that goes through does;
* `Storage.Write.Whole` — all or nothing;
* `Storage.Modest` — a store that grows by a record at most, and only when one is added.

Main results:

* `Storage.Rows.reviseAll_eq_ok` — what an update does to the rows of a table;
* `Storage.Write.all_or_nothing` — **every write to a list or a table does all or nothing**.
-/

import ManifestRegistry.Proofs.Storage.Rows

set_option relaxedAutoImplicit false
set_option autoImplicit false

namespace ManifestRegistry

namespace Storage

/-- What can be written to a store. -/
inductive Write where
  | create (record : Record)
  | update (id : Uuid) (record : Record)
  | commit (record : Record) (demote : Option Record)

namespace Write

/-- The record that is written; of a commit, the new version. -/
def record : Write → Record
  | create record | update _ record | commit record _ => record

/-- A write to a store. -/
def perform {σ : Type} [Store σ] (now : Instant) (s : σ) : Write → Reply Record × σ
  | create record => Store.call (.create record) now s
  | update id record => Store.call (.update id record) now s
  | commit record demote => Store.call (.commit record demote) now s

/-- All or nothing: a write that is refused leaves the store as it was, and one that is answered, which
it is with the record, has left what was to be left. -/
structure Whole {σ : Type} (w : Write) (s : σ) (result : Reply Record × σ) (Left : σ → Prop) :
    Prop where
  nothing : ∀ stop, result.1 = .error stop → result.2 = s
  all : ∀ r, result.1 = .ok r → r = w.record ∧ Left result.2

variable {σ : Type} {w : Write} {s s' : σ} {Left : σ → Prop}

theorem Whole.refused (stop : Stop StorageError) : w.Whole s (.error stop, s) Left where
  nothing _ _ := rfl
  all _ h := by cases h

theorem Whole.done (h : Left s') : w.Whole s (.ok w.record, s') Left where
  nothing _ h := by cases h
  all r hr := ⟨(Except.ok.inj hr).symm, h⟩

end Write

open Write

/-! ### A list of records -/

namespace Memory

/-- What a write that goes through does to records: a new one comes behind all others, and one that is
put in place of another stands where that one stood. -/
def Wrote (rs : List Record) : Write → List Record → Prop
  | .create record, rs' => rs' = rs ++ [record]
  | .update id record, rs' => ∃ i, place? rs id record.version = some i ∧ rs' = rs.set i record
  | .commit record demote, rs' => ∃ rs₁, demoted rs demote = .ok rs₁ ∧ rs' = rs₁ ++ [record]

theorem length_demoted {rs rs₁ : List Record} {demote : Option Record}
    (h : demoted rs demote = .ok rs₁) : rs₁.length = rs.length := by
  cases demote with
  | none =>
      obtain rfl : rs = rs₁ := Except.ok.inj h
      rfl
  | some p =>
      obtain ⟨i, r, -, -, -, rfl⟩ := demote_eq_ok.1 h
      exact List.length_set

/-- **A write to a list does all or nothing**: a commit that is refused has undone its demotion. -/
theorem whole_perform (now : Instant) (m : Memory) (w : Write) :
    w.Whole m (w.perform now m) fun m' =>
      ∃ rs', Wrote m.records w rs' ∧ m' = { m with records := rs' } := by
  cases w with
  | create record =>
      simp only [perform, Store.call, create]
      split
      · exact .refused _
      · cases hins : insert m.records record with
        | error e => exact .refused _
        | ok rs' => exact .done ⟨rs', (insert_eq_ok.1 hins).2.2, rfl⟩
  | update id record =>
      simp only [perform, Store.call, update]
      split
      · exact .refused _
      · cases hplace : place? m.records id record.version with
        | none => exact .refused _
        | some i => exact .done ⟨m.records.set i record, ⟨i, hplace, rfl⟩, rfl⟩
  | commit record demote =>
      simp only [perform, Store.call, commit_eq]
      split
      · exact .refused _
      · cases hc : committed m.records record demote with
        | error e => exact .refused _
        | ok rs' =>
            obtain ⟨-, rs₁, hd, hins⟩ := committed_eq_ok.1 hc
            exact .done ⟨rs', ⟨rs₁, hd, (insert_eq_ok.1 hins).2.2⟩, rfl⟩

end Memory

/-! ### A table of rows -/

namespace Rows

variable {rows rows' : List Row} {record : Record}

theorem insert_eq_ok (h : insert rows record = .ok rows') : rows' = rows ++ [Row.ofRecord record] := by
  simp only [insert, bind, Except.bind] at h
  split at h
  · cases h
  · exact (Except.ok.inj h).symm

/-- An update that goes through revises the rows of the version and leaves all others alone. -/
theorem reviseAll_eq_ok {id : Uuid} {done rest : List Row}
    (h : reviseAll id record done rest = .ok rows') : rows' = done ++ rest.map fun row =>
      if row.isVersion id record.version then revise record row else row := by
  -- rows go over to those that are done, revised or as they are
  induction rest generalizing done with
  | nil => rw [List.map_nil, List.append_nil, ← Except.ok.inj h]
  | cons row rest ih =>
      rw [reviseAll] at h
      rw [List.map_cons]
      split at h
      · rename_i hv
        simp only [bind, Except.bind] at h
        split at h
        · cases h
        · rw [ih h, List.append_assoc, if_pos hv, List.singleton_append]
      · rename_i hv
        rw [ih h, List.append_assoc, if_neg hv, List.singleton_append]

/-- **When a commit goes through, and what it does**: the owner of the name, if there is one, must have
the record's identity, the demotion must go through, and then the insertion. -/
theorem committed_eq_ok {demote : Option Record} : committed rows record demote = .ok rows' ↔
    (∀ owner, rows.find? (fun r => r.name = record.name) = some owner → owner.id = record.id) ∧
      ∃ rows₁, demoted rows demote = .ok rows₁ ∧ insert rows₁ record = .ok rows' := by
  have hbind : (demoted rows demote).bind (fun rows => insert rows record) = .ok rows' ↔
      ∃ rows₁, demoted rows demote = .ok rows₁ ∧ insert rows₁ record = .ok rows' := by
    cases demoted rows demote <;> simp [Except.bind]
  rw [committed_eq]
  cases rows.find? fun r => r.name = record.name with
  | none => simp [hbind]
  | some owner =>
      by_cases h : owner.id = record.id
      · simp [h, hbind]
      · simp [h]

/-- What a write that goes through does to rows: a new one comes behind all others, and one that is
revised or demoted stays where it is. -/
def Wrote (rows : List Row) : Write → List Row → Prop
  | .create record, rows' => rows' = rows ++ [Row.ofRecord record]
  | .update id record, rows' => rows' = rows.map fun row =>
      if row.isVersion id record.version then revise record row else row
  | .commit record demote, rows' => ∃ rows₁, demoted rows demote = .ok rows₁ ∧
      rows' = rows₁ ++ [Row.ofRecord record]

theorem length_demoted {rows₁ : List Row} {demote : Option Record}
    (h : demoted rows demote = .ok rows₁) : rows₁.length = rows.length := by
  cases demote with
  | none =>
      obtain rfl : rows = rows₁ := Except.ok.inj h
      rfl
  | some p =>
      simp only [demoted, Rows.demote] at h
      split at h
      · rw [← Except.ok.inj h, List.length_map]
      · cases h

/-- **A write to a table does all or nothing.** -/
theorem whole_perform (now : Instant) (t : Rows) (w : Write) :
    w.Whole t (w.perform now t) fun t' =>
      ∃ rows', Wrote t.rows w rows' ∧ t' = { t with rows := rows' } := by
  cases w with
  | create record =>
      simp only [perform, Store.call, create, write]
      split
      · exact .refused _
      · cases hins : insert t.rows record with
        | error e => exact .refused _
        | ok rows' => exact .done ⟨rows', insert_eq_ok hins, rfl⟩
  | update id record =>
      simp only [perform, Store.call, update, write]
      split
      · exact .refused _
      · split
        · cases hrev : reviseAll id record [] t.rows with
          | error e => exact .refused _
          | ok rows' => exact .done ⟨rows', reviseAll_eq_ok hrev, rfl⟩
        · exact .refused _
  | commit record demote =>
      simp only [perform, Store.call, commit, write]
      split
      · exact .refused _
      · cases hc : committed t.rows record demote with
        | error e => exact .refused _
        | ok rows' =>
            obtain ⟨-, rows₁, hd, hins⟩ := committed_eq_ok.1 hc
            exact .done ⟨rows', ⟨rows₁, hd, insert_eq_ok hins⟩, rfl⟩

end Rows

/-! ### Both stores -/

namespace Write

/-- **Every write does all or nothing**, to any list and to any table: when it is refused, the entries,
their places and the number of the next one are what they were. -/
theorem all_or_nothing (now : Instant) (w : Write) :
    (∀ m : Memory, w.Whole m (w.perform now m) fun m' =>
      ∃ rs', Memory.Wrote m.records w rs' ∧ m' = { m with records := rs' }) ∧
    ∀ t : Rows, w.Whole t (w.perform now t) fun t' =>
      ∃ rows', Rows.Wrote t.rows w rows' ∧ t' = { t with rows := rows' } :=
  ⟨fun m => Memory.whole_perform now m w, fun t => Rows.whole_perform now t w⟩

/-- A flagged version. -/
def first : Record where
  manifest := { name := "a/b", version := "1.0.0" }
  registration := .new ⟨1⟩ .epoch true

/-- A commit of the version that it demotes is refused after the demotion, which is undone. -/
def twice : Write := .commit first (some (first.demoted .epoch))

/-- The version is flagged as before. -/
theorem all_or_nothing_twice :
    (let m : Memory := { records := [first] };
      (twice.perform .epoch m).1 = refuse (.alreadyExists (first.name ++ " " ++ first.version)) ∧
        (twice.perform .epoch m).2 = m) ∧
    let t : Rows := { rows := [Row.ofRecord first] }
    (twice.perform .epoch t).1 = refuse Rows.repeatedVersion ∧ (twice.perform .epoch t).2 = t := by
  obtain ⟨hlist, htable⟩ := all_or_nothing .epoch twice
  exact ⟨⟨rfl, (hlist _).nothing _ rfl⟩, rfl, (htable _).nothing _ rfl⟩

end Write

/-! ### How stores grow -/

/-- Whether a call may add a record. -/
def Call.adds : Call → Bool
  | .create _ | .commit .. => true
  | _ => false

/-- A store that grows by a record at most, and only when one is created or committed; a commit that is
refused leaves it as it was. -/
class Modest (σ : Type) [Store σ] : Prop where
  commit_refused {s : σ} {record : Record} {demote : Option Record} {now : Instant}
    {stop : Stop StorageError} (h : (Store.call (.commit record demote) now s).1 = .error stop) :
    (Store.call (.commit record demote) now s).2 = s
  size_commit (record : Record) (demote : Option Record) (now : Instant) (s : σ) :
    Store.size (Store.call (.commit record demote) now s).2 ≤ Store.size s + 1
  size_call {c : Call} (hc : c.adds = false) (now : Instant) (s : σ) :
    Store.size (Store.call c now s).2 ≤ Store.size s

/-- All or nothing is no more than what is done. -/
theorem Write.Whole.size_le {σ : Type} [Store σ] {w : Write} {s : σ} {result : Reply Record × σ}
    {Left : σ → Prop} (h : w.Whole s result Left) {n : Nat} (hs : Store.size s ≤ n)
    (hleft : ∀ s', Left s' → Store.size s' ≤ n) : Store.size result.2 ≤ n := by
  cases hres : result.1 with
  | error stop =>
      rw [h.nothing stop hres]
      exact hs
  | ok r => exact hleft _ (h.all r hres).2

/-- A list is modest. -/
instance : Modest Memory where
  commit_refused {m record demote now stop} h :=
    (Memory.whole_perform now m (.commit record demote)).nothing stop h
  size_commit record demote now m := by
    refine (Memory.whole_perform now m (.commit record demote)).size_le (Nat.le_succ _) ?_
    rintro - ⟨rs', ⟨rs₁, hdemoted, rfl⟩, rfl⟩
    show (rs₁ ++ [record]).length ≤ m.records.length + 1
    rw [List.length_append, Memory.length_demoted hdemoted]
    exact Nat.le_refl _
  size_call {c} hc now m := by
    cases c with
    | create record => cases hc
    | commit record demote => cases hc
    | update id record =>
        refine (Memory.whole_perform now m (.update id record)).size_le (Nat.le_refl _) ?_
        rintro - ⟨rs', ⟨i, -, rfl⟩, rfl⟩
        exact Nat.le_of_eq List.length_set
    | _ => exact Nat.le_refl _

/-- So is a table. -/
instance : Modest Rows where
  commit_refused {t record demote now stop} h :=
    (Rows.whole_perform now t (.commit record demote)).nothing stop h
  size_commit record demote now t := by
    refine (Rows.whole_perform now t (.commit record demote)).size_le (Nat.le_succ _) ?_
    rintro - ⟨rows', ⟨rows₁, hdemoted, rfl⟩, rfl⟩
    show (rows₁ ++ [Row.ofRecord record]).length ≤ t.rows.length + 1
    rw [List.length_append, Rows.length_demoted hdemoted]
    exact Nat.le_refl _
  size_call {c} hc now t := by
    cases c with
    | create record => cases hc
    | commit record demote => cases hc
    | update id record =>
        refine (Rows.whole_perform now t (.update id record)).size_le (Nat.le_refl _) ?_
        rintro - ⟨rows', rfl, rfl⟩
        exact Nat.le_of_eq (List.length_map _)
    | _ => exact Nat.le_refl _

end Storage

end ManifestRegistry
