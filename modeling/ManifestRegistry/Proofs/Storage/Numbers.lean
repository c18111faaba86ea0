/-
**Places are numbers.**

A store of records need not keep their sequence numbers.  One that does gives a new record the number after
the last one that it gave, and nothing ever takes a record away, or a number back that a stored record has:
so the numbers that are kept are the places of the records, and the last number that was given is how many
there are.  What is proved of records in their places is thereby proved of records with kept numbers.

For the table this ends where the integers of a column end.  Up to there a cursor or a limit that is cut down
to the largest integer reaches the same rows, and behind it nothing can be added.

Main definitions:

* `Storage.Series.ofMemory`, `Storage.Table.ofRows` — records and rows with their places as kept numbers.

Main results:

* `Storage.Series.call_ofMemory`, `Storage.Series.call_led` — **kept numbers are places**: after any calls the
  list that keeps numbers answers as the one that does not, and keeps the places as numbers;
* `Storage.Table.select_eq` — **a cursor or a limit cut down** to the largest integer selects the same rows;
* `Storage.Table.call_ofRows`, `Storage.Table.call_led` — the same for the table, as long as there are numbers;
* `Storage.Series.perform_refused`, `Storage.Table.perform_refused` — a refused write takes no number;
* `Storage.Table.insert_eq_full_iff`, `Storage.Table.commit_of_full` — **when there is none left**, and what
  becomes of a commit then.
-/

import ManifestRegistry.Proofs.Storage.Candid
import ManifestRegistry.Proofs.Storage.Holdings
import ManifestRegistry.Storage.Series
import ManifestRegistry.Storage.Table
import Mathlib.Data.List.Zip

set_option relaxedAutoImplicit false
set_option autoImplicit false

namespace ManifestRegistry

namespace Storage

/-- A store whose calls come to what they come to in another one is written to like that one. -/
theorem Write.perform_eq {σ τ : Type} [Store σ] [Store τ] {s : σ} {t : τ} {f : τ → σ}
    (hcall : ∀ c now, Store.call c now s = ((Store.call c now t).1, f (Store.call c now t).2))
    (now : Instant) (w : Write) : w.perform now s = ((w.perform now t).1, f (w.perform now t).2) := by
  cases w with
  | create record => exact hcall (.create record) now
  | update id record => exact hcall (.update id record) now
  | commit record demote => exact hcall (.commit record demote) now

/-! ### The list -/

namespace Series

/-- A list of records whose numbers are their places. -/
def ofMemory (m : Memory) : Series := ⟨Memory.sequenced m.records, m.records.length, m.closed⟩

@[simp] theorem records_ofMemory (m : Memory) : (ofMemory m).records = m.records :=
  Memory.map_snd_sequenced m.records

@[simp] theorem plain_ofMemory (m : Memory) : (ofMemory m).plain = m := by
  rw [plain, records_ofMemory]
  rfl

variable {m : Memory}

theorem put_ofMemory (i : Nat) (record : Record) :
    (ofMemory m).put i record = ofMemory { m with records := m.records.set i record } := by
  have hnumbers : (Memory.sequenced m.records).modify i (fun e => (e.1, record)) =
      (Memory.sequenced m.records).set i (i + 1, record) := by
    refine List.ext_getElem? fun k => ?_
    simp only [List.getElem?_modify, List.getElem?_set, Memory.sequenced, List.length_map,
      List.length_zipIdx]
    by_cases hik : i = k
    · subst hik
      by_cases hlt : i < m.records.length
      · simp [hlt, Nat.add_comm]
      · simp [hlt]
    · simp [hik]
  simp only [put, ofMemory, hnumbers, sequenced_set, List.length_set]

theorem insert_ofMemory (record : Record) : (ofMemory m).insert record =
    (Memory.insert m.records record).map fun records => ofMemory { m with records } := by
  rw [insert, records_ofMemory]
  cases hins : Memory.insert m.records record with
  | error e => rfl
  | ok rs =>
      obtain ⟨-, -, rfl⟩ := Memory.insert_eq_ok.1 hins
      simp only [Except.map, ofMemory, sequenced_append, List.length_append, List.length_singleton]

/-- A swap names what stood in the place together with its number. -/
theorem swap_ofMemory (change : Option (Nat × Record)) : (ofMemory m).swap change =
    ((m.swap change).1.map fun old => (old.1, (old.1 + 1, old.2)), ofMemory (m.swap change).2) := by
  cases change with
  | none => rfl
  | some change =>
      obtain ⟨i, r⟩ := change
      have hold : (Memory.sequenced m.records)[i]? = m.records[i]?.map fun old => (i + 1, old) := by
        rw [Memory.sequenced, List.getElem?_map, List.getElem?_zipIdx, Option.map_map, Nat.add_comm]
        rfl
      simp only [swap, Memory.swap, put_ofMemory, Option.map_map]
      rw [show (ofMemory m).entries = Memory.sequenced m.records from rfl, hold, Option.map_map]
      rfl

/-- So what is put back is what the list without numbers puts back. -/
theorem restore_ofMemory (old : Option (Nat × Record)) :
    (ofMemory m).restore (old.map fun old => (old.1, (old.1 + 1, old.2))) =
      ofMemory (m.swap old).2 := by
  cases old with
  | none => rfl
  | some old => simp only [restore, Option.map_some, Memory.swap, ofMemory, sequenced_set, List.length_set]

theorem create_ofMemory (record : Record) : (ofMemory m).create record =
    ((m.create record).1, ofMemory (m.create record).2) := by
  rw [create, insert_ofMemory, Memory.create, show (ofMemory m).closed = m.closed from rfl]
  split
  · rfl
  · cases Memory.insert m.records record <;> rfl

theorem update_ofMemory (id : Uuid) (record : Record) : (ofMemory m).update id record =
    ((m.update id record).1, ofMemory (m.update id record).2) := by
  rw [update, records_ofMemory, Memory.update, show (ofMemory m).closed = m.closed from rfl]
  split
  · rfl
  · cases Memory.place? m.records id record.version with
    | none => rfl
    | some i => simp only [put_ofMemory]

/-- A commit that is refused puts the demoted record back under its number and has given none. -/
theorem commit_ofMemory (record : Record) (previous : Option Record) :
    (ofMemory m).commit record previous =
      ((m.commit record previous).1, ofMemory (m.commit record previous).2) := by
  rw [commit, records_ofMemory, Memory.commit, show (ofMemory m).closed = m.closed from rfl]
  split
  · rfl
  · cases Memory.ownerFlaw? m.records record with
    | some e => rfl
    | none =>
        cases Memory.demotion? m.records previous with
        | error e => rfl
        | ok change =>
            simp only [swap_ofMemory, insert_ofMemory]
            cases Memory.insert (m.swap change).2.records record with
            | error e => simp only [Except.map, restore_ofMemory]
            | ok records => rfl

/-- **Kept numbers are places**: a call answers the same, and what it leaves has its places as numbers
again. -/
theorem call_ofMemory (c : Call) (now : Instant) (m : Memory) : Store.call c now (ofMemory m) =
    ((Store.call c now m).1, ofMemory (Store.call c now m).2) := by
  cases c with
  | list filter cursor limit => rfl
  | getById id => exact congrArg (fun p : Memory => (p.getById id, ofMemory m)) (plain_ofMemory m)
  | getVersion id version =>
      exact congrArg (fun p : Memory => (p.getVersion id version, ofMemory m)) (plain_ofMemory m)
  | create record => exact create_ofMemory record
  | update id record => exact update_ofMemory id record
  | countRecent subject hours =>
      exact congrArg (fun p : Memory => (p.countRecent now subject hours, ofMemory m)) (plain_ofMemory m)
  | commit record previous => exact commit_ofMemory record previous
  | close => rfl

theorem led_ofMemory (m : Memory) (calls : List (Instant × Call)) :
    led (ofMemory m) calls = ofMemory (led m calls) := by
  induction calls generalizing m with
  | nil => rfl
  | cons c calls ih =>
      rw [led, led, List.foldl_cons, List.foldl_cons, call_ofMemory]
      exact ih _

/-- **After any calls** the list that keeps numbers answers as the one without them. -/
theorem call_led (calls : List (Instant × Call)) (c : Call) (now : Instant) :
    Store.call c now (led ({} : Series) calls) =
      ((Store.call c now (led ({} : Memory) calls)).1,
        ofMemory (Store.call c now (led ({} : Memory) calls)).2) := by
  rw [← call_ofMemory, ← led_ofMemory]
  rfl

/-- **A write that is refused** takes no number and leaves each record the one that it has. -/
theorem perform_refused {calls : List (Instant × Call)} {w : Write} {now : Instant}
    {stop : Stop StorageError} (h : (w.perform now (led ({} : Series) calls)).1 = .error stop) :
    (w.perform now (led ({} : Series) calls)).2 = led {} calls := by
  rw [w.perform_eq (call_led calls) now] at h ⊢
  rw [(Memory.whole_perform now (led {} calls) w).nothing stop h]
  exact (led_ofMemory {} calls).symm

end Series

/-! ### The table -/

namespace Table

/-- A table of rows whose numbers are their places. -/
def ofRows (t : Rows) : Table := ⟨Rows.sequenced t.rows, t.rows.length, t.closed⟩

@[simp] theorem plain_ofRows (t : Rows) : (ofRows t).plain = t := by
  rw [plain, show (ofRows t).rows = Rows.sequenced t.rows from rfl, Rows.map_snd_sequenced]
  rfl

variable {t : Rows}

/-! #### Reading -/

/-- A number that a column can hold is behind a place exactly if it is behind the place cut down. -/
theorem isBehind_min (start : Option Nat) {n : Nat} (h : n ≤ largest) :
    Page.isBehind (start.map fun s => min s largest) n = Page.isBehind start n := by
  cases start with
  | none => rfl
  | some s =>
      have hmin : min s largest < n ↔ s < n := by omega
      exact decide_eq_decide.2 hmin

/-- **A cursor or a limit cut down** to the largest integer selects the same rows. -/
theorem select_eq {t : Table} (hnumbers : ∀ r ∈ t.rows, r.1 ≤ largest) (hsize : t.rows.length ≤ largest)
    (filter : Filter) (start : Option Nat) (limit : Nat) : t.select filter start limit =
      (t.rows.filter fun r => Page.isBehind start r.1 && r.2.selectedBy filter).take limit := by
  have hfilter : (t.rows.filter fun r => Page.isBehind (start.map fun n => min n largest) r.1 &&
      r.2.selectedBy filter) =
      t.rows.filter fun r => Page.isBehind start r.1 && r.2.selectedBy filter :=
    List.filter_congr fun r hr => by rw [isBehind_min start (hnumbers r hr)]
  rw [select, hfilter, List.take_eq_take_iff]
  have hle : (t.rows.filter fun r => Page.isBehind start r.1 && r.2.selectedBy filter).length ≤ largest :=
    Nat.le_trans (List.length_filter_le _ _) hsize
  omega

theorem list_ofRows (h : t.rows.length ≤ largest) (filter : Filter) (cursor : Option String)
    (limit : Nat) : (ofRows t).list filter cursor limit = t.list filter cursor limit := by
  have hnumbers : ∀ r ∈ (ofRows t).rows, r.1 ≤ largest := by
    intro r hr
    obtain ⟨⟨row, n⟩, hmem, rfl⟩ := List.mem_map.1 hr
    have hlt := (List.mem_zipIdx hmem).2.1
    show n ≤ largest
    omega
  have hsize : (ofRows t).rows.length ≤ largest := by
    rwa [show (ofRows t).rows = Rows.sequenced t.rows from rfl, Rows.sequenced, List.length_map,
      List.length_zipIdx]
  rw [list, Rows.list]
  cases Page.start? cursor with
  | error e => rfl
  | ok start =>
      simp only [select_eq hnumbers hsize]
      rfl

/-! #### Writing -/

theorem inPlace_ofRows {rows : List Row} (h : rows.length = t.rows.length) :
    (ofRows t).inPlace rows = ofRows { t with rows } := by
  have hnumbers : ∀ rows : List Row, (Rows.sequenced rows).map Prod.fst = List.range' 1 rows.length := by
    intro rows
    rw [Rows.sequenced, List.map_map]
    exact List.zipIdx_map_snd 1 rows
  have hzip : (List.range' 1 rows.length).zip rows = Rows.sequenced rows := by
    rw [Rows.sequenced, List.zipIdx_eq_zip_range']
    exact (List.zip_swap rows _).symm
  simp only [inPlace, ofRows, hnumbers, ← h, hzip]

theorem insert_ofRows (h : t.rows.length < largest) (record : Record) : (ofRows t).insert record =
    (Rows.insert t.rows record).map fun rows => ofRows { t with rows } := by
  have hnumbers : Rows.sequenced (t.rows ++ [Row.ofRecord record]) =
      Rows.sequenced t.rows ++ [(t.rows.length + 1, Row.ofRecord record)] := by
    simp [Rows.sequenced, List.zipIdx_append, Nat.add_comm]
  have hlast : (ofRows t).last = t.rows.length := rfl
  simp only [insert, hlast, if_neg (Nat.not_le.2 h), plain_ofRows, Rows.insert]
  cases Rows.checkBeside t.rows (Row.ofRecord record) with
  | error e => rfl
  | ok _ =>
      simp only [bind, Except.bind, Except.map, ofRows, hnumbers, List.length_append,
        List.length_singleton]

theorem demoted_ofRows (previous : Option Record) : (ofRows t).demoted previous =
    (Rows.demoted t.rows previous).map fun rows => ofRows { t with rows } := by
  cases previous with
  | none => rfl
  | some p =>
      simp only [demoted, plain_ofRows, Rows.demoted]
      cases hd : Rows.demote t.rows p with
      | error e => rfl
      | ok rows =>
          have hdemoted : Rows.demoted t.rows (some p) = .ok rows := hd
          simp only [Except.map, inPlace_ofRows (Rows.length_demoted hdemoted)]

theorem committed_ofRows (h : t.rows.length < largest) (record : Record) (previous : Option Record) :
    (ofRows t).committed record previous =
      (Rows.committed t.rows record previous).map fun rows => ofRows { t with rows } := by
  have hwrites : ((ofRows t).demoted previous >>= fun t => t.insert record) =
      ((Rows.demoted t.rows previous).bind fun rows => Rows.insert rows record).map
        fun rows => ofRows { t with rows } := by
    rw [demoted_ofRows]
    cases hd : Rows.demoted t.rows previous with
    | error e => rfl
    | ok rows =>
        exact insert_ofRows (t := { t with rows }) (Rows.length_demoted hd ▸ h) record
  rw [committed, Rows.committed_eq, plain_ofRows]
  cases t.rows.find? fun r => r.name = record.name with
  | none => exact hwrites
  | some owner =>
      simp only
      split
      · rfl
      · exact hwrites

theorem write_ofRows (record : Record) (changed : Except StorageError (List Row)) :
    (ofRows t).write record (changed.map fun rows => ofRows { t with rows }) =
      ((t.write record changed).1, ofRows (t.write record changed).2) := by
  cases changed <;> rfl

theorem create_ofRows (h : t.rows.length < largest) (record : Record) : (ofRows t).create record =
    ((t.create record).1, ofRows (t.create record).2) := by
  rw [create, Rows.create, insert_ofRows h, show (ofRows t).closed = t.closed from rfl, write_ofRows]
  split <;> rfl

theorem update_ofRows (id : Uuid) (record : Record) : (ofRows t).update id record =
    ((t.update id record).1, ofRows (t.update id record).2) := by
  have hrevised : (Rows.reviseAll id record [] t.rows).map (ofRows t).inPlace =
      (Rows.reviseAll id record [] t.rows).map fun rows => ofRows { t with rows } := by
    cases hrev : Rows.reviseAll id record [] t.rows with
    | error e => rfl
    | ok rows =>
        have hlength : rows.length = t.rows.length := by
          rw [Rows.reviseAll_eq_ok hrev, List.nil_append, List.length_map]
        exact congrArg Except.ok (inPlace_ofRows hlength)
  rw [update, Rows.update, plain_ofRows, hrevised, show (ofRows t).closed = t.closed from rfl, write_ofRows]
  split
  · rfl
  · split <;> rfl

theorem commit_ofRows (h : t.rows.length < largest) (record : Record) (previous : Option Record) :
    (ofRows t).commit record previous =
      ((t.commit record previous).1, ofRows (t.commit record previous).2) := by
  rw [commit, Rows.commit, committed_ofRows h, show (ofRows t).closed = t.closed from rfl, write_ofRows]
  split <;> rfl

/-! #### Calls -/

/-- **Kept numbers are places** in the table, too, as long as there is a number for a row that is added. -/
theorem call_ofRows {c : Call} (hsize : t.rows.length ≤ largest)
    (hroom : c.adds = true → t.rows.length < largest) (now : Instant) :
    Store.call c now (ofRows t) = ((Store.call c now t).1, ofRows (Store.call c now t).2) := by
  cases c with
  | list filter cursor limit => exact congrArg (·, ofRows t) (list_ofRows hsize filter cursor limit)
  | getById id => exact congrArg (fun p : Rows => (p.getById id, ofRows t)) (plain_ofRows t)
  | getVersion id version =>
      exact congrArg (fun p : Rows => (p.getVersion id version, ofRows t)) (plain_ofRows t)
  | create record => exact create_ofRows (hroom rfl) record
  | update id record => exact update_ofRows id record
  | countRecent subject hours =>
      exact congrArg (fun p : Rows => (p.countRecent now subject hours, ofRows t)) (plain_ofRows t)
  | commit record previous => exact commit_ofRows (hroom rfl) record previous
  | close => rfl

theorem length_call_le (c : Call) (now : Instant) (t : Rows) :
    (Store.call c now t).2.rows.length ≤ t.rows.length + 1 := by
  cases hc : c.adds with
  | false => exact Nat.le_succ_of_le (Modest.size_call hc now t)
  | true =>
      cases c with
      | create record =>
          refine (Rows.whole_perform now t (.create record)).size_le (Nat.le_succ _) ?_
          rintro - ⟨rows, rfl, rfl⟩
          exact Nat.le_of_eq List.length_append
      | commit record previous => exact Modest.size_commit record previous now t
      | _ => cases hc

theorem led_ofRows (calls : List (Instant × Call)) (h : t.rows.length + calls.length ≤ largest) :
    led (ofRows t) calls = ofRows (led t calls) ∧
      (led t calls).rows.length ≤ t.rows.length + calls.length := by
  -- a call takes a number at most, so there is one left for each call to come
  induction calls generalizing t with
  | nil => exact ⟨rfl, Nat.le_refl _⟩
  | cons c calls ih =>
      rw [List.length_cons] at h
      have hle := length_call_le c.2 c.1 t
      obtain ⟨hled, hsize⟩ := ih (t := (Store.call c.2 c.1 t).2) (by omega)
      have hcall := call_ofRows (t := t) (c := c.2) (by omega) (fun _ => by omega) c.1
      refine ⟨?_, ?_⟩
      · rw [led, led, List.foldl_cons, List.foldl_cons, hcall]
        exact hled
      · rw [List.length_cons]
        exact Nat.le_trans hsize (by omega)

/-- **After any calls**, fewer than there are numbers, the table that keeps numbers answers as the one
without them. -/
theorem call_led {calls : List (Instant × Call)} (h : calls.length < largest) (c : Call) (now : Instant) :
    Store.call c now (led ({} : Table) calls) =
      ((Store.call c now (led ({} : Rows) calls)).1,
        ofRows (Store.call c now (led ({} : Rows) calls)).2) := by
  obtain ⟨hled, hsize⟩ := led_ofRows (t := {}) calls (by simpa using Nat.le_of_lt h)
  have hlt : (led ({} : Rows) calls).rows.length < largest := Nat.lt_of_le_of_lt (by simpa using hsize) h
  rw [← call_ofRows (Nat.le_of_lt hlt) (fun _ => hlt), ← hled]
  rfl

/-- **A write that is refused** takes no number and leaves each row the one that it has. -/
theorem perform_refused {calls : List (Instant × Call)} (hlt : calls.length < largest) {w : Write}
    {now : Instant} {stop : Stop StorageError}
    (h : (w.perform now (led ({} : Table) calls)).1 = .error stop) :
    (w.perform now (led ({} : Table) calls)).2 = led {} calls := by
  rw [w.perform_eq (call_led hlt) now] at h ⊢
  rw [(Rows.whole_perform now (led {} calls) w).nothing stop h]
  exact (led_ofRows (t := {}) calls (by simpa using Nat.le_of_lt hlt)).1.symm

/-! #### The last number -/

variable {u : Table} {record : Record}

theorem insert_of_full (h : largest ≤ u.last) : u.insert record = .error full := if_pos h

/-- **An insertion fails for want of a number** exactly if the last one has been given. -/
theorem insert_eq_full_iff : u.insert record = .error full ↔ largest ≤ u.last := by
  refine ⟨fun h => ?_, insert_of_full⟩
  by_contra hroom
  simp only [insert, if_neg hroom, Rows.checkBeside] at h
  -- what else keeps a row out is a constraint of the table, which is told as such
  split at h
  · cases h
  · split at h <;> cases h

/-- **A commit to a full table** is refused, and what it was to demote is as it was. -/
theorem commit_of_full (h : largest ≤ u.last) (previous : Option Record) :
    ∃ e, u.commit record previous = (refuse e, u) := by
  have hdemoted : ∀ u', u.demoted previous = .ok u' → u'.insert record = .error full := by
    intro u' hu'
    refine insert_of_full ?_
    cases previous with
    | none =>
        obtain rfl : u = u' := Except.ok.inj hu'
        exact h
    | some p =>
        simp only [demoted] at hu'
        cases hd : Rows.demote u.plain.rows p with
        | error e =>
            rw [hd] at hu'
            cases hu'
        | ok rows =>
            rw [hd] at hu'
            obtain rfl : u.inPlace rows = u' := Except.ok.inj hu'
            exact h
  have hcommitted : ∃ e, u.committed record previous = .error e := by
    have hwrites : ∃ e, (u.demoted previous >>= fun t => t.insert record) = .error e := by
      cases hd : u.demoted previous with
      | error e => exact ⟨e, rfl⟩
      | ok u' => exact ⟨full, hdemoted u' hd⟩
    rw [committed]
    cases u.plain.rows.find? fun r => r.name = record.name with
    | none => exact hwrites
    | some owner =>
        simp only
        split
        · exact ⟨_, rfl⟩
        · exact hwrites
  obtain ⟨e, he⟩ := hcommitted
  rw [commit, he]
  split
  · exact ⟨_, rfl⟩
  · exact ⟨e, rfl⟩

end Table

end Storage

end ManifestRegistry
