/-
**A table that keeps a list of records.**

As long as it is only told what tasks tell it, the rows of a table are those of a list of records, and
a call does to the table what it does to the list: the columns say what the documents say.  The table
refuses some updates that the list lets through, those that would leave a name with two flagged rows.

Main results:

* `Storage.Row.record?_of_text` — what is read of a row with the document of a record;
* `Storage.Rows.committed_map` — **a commit to the rows of records is one to the records**;
* `Storage.Rows.reviseAll_map` — an update of the row of a record;
* the table is a guarded ledger.
-/

import ManifestRegistry.Proofs.Records.Document
import ManifestRegistry.Proofs.Storage.Ledger
import ManifestRegistry.Storage.Rows

set_option relaxedAutoImplicit false
set_option autoImplicit false

namespace ManifestRegistry

namespace Storage

/-! ### Rows -/

namespace Row

section

variable {row : Row} {f : Filter}

theorem shownBy_of_remoteUrl (h : f.remoteUrl = none) (row : Row) : row.shownBy f = row.record? := by
  rw [shownBy, h]
  rfl

theorem shownBy_of_untangled (h : row.isTangled = false) : row.shownBy f = row.record? := by
  rw [shownBy, h, Bool.and_false]
  rfl

theorem record?_of_shownBy {x : Record} (h : row.shownBy f = .ok x) : row.record? = .ok x := by
  unfold shownBy at h
  split at h
  · cases h
  · exact h

end

/-- **What is read of a row with the document of a record**: the record, with its bag read back and
the row's publisher. -/
theorem record?_of_text {row : Row} {r : Record} (hdoc : row.document = r.text) (h : r.IsDated) :
    row.record? = match r.bag.reread with
      | .ok bag => .ok { r with bag, publishedBy := row.publishedBy }
      | .error _ => .error (unreadable r.text) := by
  rw [record?, hdoc, Record.decodeText_text h]
  cases r.bag.reread <;> rfl

theorem record?_ofRecord {r : Record} (h : r.IsDated) :
    (ofRecord r).record? = match r.bag.reread with
      | .ok bag => .ok { r with bag }
      | .error _ => .error (unreadable r.text) :=
  record?_of_text rfl h

theorem record?_of_deep {r : Record} (h : r.IsDated) (hdeep : 126 < r.bag.depth) :
    (ofRecord r).record? = .error (unreadable r.text) := by
  obtain ⟨fault, hfault⟩ := Record.decodeText_of_deep h hdeep
  have hdoc : (ofRecord r).document = r.text := rfl
  rw [record?, hdoc, hfault]

theorem shows_of_record? {r x : Record} (h : r.IsDated) (hx : (ofRecord r).record? = .ok x) :
    Shows Bag.Lossless x r := by
  rw [record?_ofRecord h] at hx
  cases hbag : r.bag.reread with
  | error e =>
      rw [hbag] at hx
      cases hx
  | ok bag =>
      rw [hbag] at hx
      obtain rfl := Except.ok.inj hx
      refine ⟨rfl, rfl, rfl, fun hsame => ?_⟩
      obtain rfl := Except.ok.inj (hbag.symm.trans hsame)
      rfl

theorem lossless_of_record? {r : Record} (h : r.IsDated) (hread : (ofRecord r).record? = .ok r) :
    r.bag.Lossless := by
  rw [record?_ofRecord h] at hread
  cases hbag : r.bag.reread with
  | error fault =>
      rw [hbag] at hread
      cases hread
  | ok bag =>
      rw [hbag] at hread
      have hsame : bag = r.bag := congrArg Record.bag (Except.ok.inj hread)
      exact hsame ▸ hbag

theorem demoteRow_ofRecord {r p : Record} (h : r.imprint = p.imprint) (hp : p.isLatest = false) :
    Rows.demoteRow p (ofRecord r) = ofRecord p := by
  simp only [Record.imprint, Imprint.mk.injEq] at h
  obtain ⟨hn, hv, hid, hpub, -, hby⟩ := h
  simp only [Rows.demoteRow, ofRecord, hn, hv, hid, hpub, hby, hp]

theorem revise_ofRecord {r p : Record} (h : r.imprint = p.imprint) :
    Rows.revise p (ofRecord r) = ofRecord p := by
  simp only [Record.imprint, Imprint.mk.injEq] at h
  obtain ⟨-, hv, hid, hpub, -, hby⟩ := h
  simp only [Rows.revise, ofRecord, hv, hid, hpub, hby]

end Row

namespace Rows

variable {rs rs' : List Record} {record p : Record}

/-! ### Inserting -/

/-- A row may stand beside others if its name does not have the version and, if it is flagged, no
flagged row. -/
theorem checkBeside_eq_ok {rows : List Row} {row : Row} :
    checkBeside rows row = .ok () ↔ (∀ r ∈ rows, r.name = row.name → r.version ≠ row.version) ∧
      (row.isLatest = true → ∀ r ∈ rows, r.name = row.name → r.isLatest = false) := by
  unfold checkBeside
  split
  · rename_i h
    simp only [Bool.and_eq_true, List.any_eq_true, decide_eq_true_eq] at h
    obtain ⟨hrow, r, hr, hn, hflag⟩ := h
    simp only [reduceCtorEq, false_iff, not_and]
    exact fun _ hno => absurd (hno hrow r hr hn) (by simp [hflag])
  · rename_i h
    simp only [Bool.and_eq_true, List.any_eq_true, decide_eq_true_eq, not_and, not_exists,
      Bool.not_eq_true] at h
    split
    · rename_i hv
      simp only [List.any_eq_true, Bool.and_eq_true, decide_eq_true_eq] at hv
      obtain ⟨r, hr, hn, hver⟩ := hv
      simp only [reduceCtorEq, false_iff, not_and]
      exact fun hno => absurd hver (hno r hr hn)
    · rename_i hv
      simp only [List.any_eq_true, Bool.and_eq_true, decide_eq_true_eq, not_exists, not_and] at hv
      simp only [true_iff]
      exact ⟨fun r hr hn => hv r hr hn, fun hrow r hr hn => h hrow r hr hn⟩

theorem insert_map {rows : List Row} :
    insert (rs.map Row.ofRecord) record = .ok rows ↔
      ∃ rs', Memory.insert rs record = .ok rs' ∧ rows = rs'.map Row.ofRecord := by
  have hcheck : checkBeside (rs.map Row.ofRecord) (Row.ofRecord record) = .ok () ↔
      (∀ r ∈ rs, r.name = record.name → r.version ≠ record.version) ∧
        (record.isLatest = true → ∀ r ∈ rs, r.name = record.name → r.isLatest = false) := by
    rw [checkBeside_eq_ok]
    simp only [List.forall_mem_map]
    rfl
  have hinsert : insert (rs.map Row.ofRecord) record = .ok rows ↔
      checkBeside (rs.map Row.ofRecord) (Row.ofRecord record) = .ok () ∧
        rows = (rs ++ [record]).map Row.ofRecord := by
    simp only [insert, bind, Except.bind, List.map_append, List.map_cons, List.map_nil]
    cases checkBeside (rs.map Row.ofRecord) (Row.ofRecord record) with
    | error e => simp
    | ok u => simp [eq_comm]
  rw [hinsert, hcheck]
  constructor
  · rintro ⟨⟨hv, hl⟩, rfl⟩
    exact ⟨_, Memory.insert_eq_ok.2 ⟨hv, hl, rfl⟩, rfl⟩
  · rintro ⟨rs', hins, rfl⟩
    obtain ⟨hv, hl, rfl⟩ := Memory.insert_eq_ok.1 hins
    exact ⟨⟨hv, hl⟩, rfl⟩

/-! ### Demoting -/

/-- The rows of records with a version replaced are the rows with the row of that version replaced. -/
theorem map_replace (h : Distinct (rs.map Record.imprint)) {i : Nat} {r : Record}
    (hi : Memory.place? rs p.id p.version = some i) (hr : rs[i]? = some r)
    {test : Row → Bool} {change : Row → Row} (htest : test (Row.ofRecord r) = true)
    (honly : ∀ s ∈ rs, test (Row.ofRecord s) = true → s.isVersion p.id p.version = true)
    (hchange : change (Row.ofRecord r) = Row.ofRecord p) :
    (rs.map Row.ofRecord).map (fun row => if test row then change row else row) =
      (rs.set i p).map Row.ofRecord := by
  have hrow : (rs.map Row.ofRecord)[i]? = some (Row.ofRecord r) := by
    rw [List.getElem?_map, hr, Option.map_some]
  rw [List.map_set, ← hchange]
  refine (set_eq_map _ _ hrow htest ?_).symm
  intro k row hk ht
  rw [List.getElem?_map] at hk
  obtain ⟨s, hs, rfl⟩ := Option.map_eq_some_iff.1 hk
  exact h.eq_place hi hs (honly s (List.mem_of_getElem? hs) ht)

theorem demote_map (h : Distinct (rs.map Record.imprint)) (hm : p.imprint ∈ rs.map Record.imprint)
    (hp : p.isLatest = false) {rows : List Row} :
    demote (rs.map Row.ofRecord) p = .ok rows ↔
      ∃ rs', Memory.demote rs p = .ok rs' ∧ rows = rs'.map Row.ofRecord := by
  have hany : (rs.map Row.ofRecord).any (isLatestVersion p) = true ↔
      ∃ r ∈ rs, r.isVersion p.id p.version = true ∧ r.isLatest = true := by
    rw [List.any_map]
    simp only [List.any_eq_true, Function.comp_apply, isLatestVersion, Bool.and_eq_true]
    rfl
  have hmap : ∀ i r, Memory.place? rs p.id p.version = some i → rs[i]? = some r →
      r.isLatest = true → (rs.map Row.ofRecord).map
        (fun row => if isLatestVersion p row then demoteRow p row else row) =
          (rs.set i p).map Row.ofRecord := by
    intro i r hi hr hl
    obtain ⟨s, hs, hv⟩ := Memory.place?_eq_some hi
    obtain rfl : s = r := Option.some_inj.1 (hs.symm.trans hr)
    refine map_replace h hi hr ?_ (fun t _ ht => ?_)
      (Row.demoteRow_ofRecord (h.imprint_eq hi hr hm) hp)
    · exact Bool.and_eq_true_iff.2 ⟨hv, hl⟩
    · exact (Bool.and_eq_true_iff.1 ht).1
  -- the table looks for the flagged row of the version, and the list for its place
  unfold demote
  split
  · rename_i hyes
    obtain ⟨r, hr, hv, hl⟩ := hany.1 hyes
    obtain ⟨i, hi, hj⟩ := h.exists_place hr hv
    rw [hmap i r hi hj hl, Except.ok.injEq]
    constructor
    · rintro rfl
      exact ⟨_, Memory.demote_eq_ok.2 ⟨i, r, hi, hj, hl, rfl⟩, rfl⟩
    · rintro ⟨rs', hd, rfl⟩
      obtain ⟨k, s, hk, -, -, rfl⟩ := Memory.demote_eq_ok.1 hd
      obtain rfl : i = k := Option.some_inj.1 (hi.symm.trans hk)
      rfl
  · rename_i hno
    simp only [reduceCtorEq, false_iff, not_exists, not_and]
    intro rs' hd _
    obtain ⟨i, r, hi, hr, hl, -⟩ := Memory.demote_eq_ok.1 hd
    obtain ⟨s, hs, hv⟩ := Memory.place?_eq_some hi
    obtain rfl : s = r := Option.some_inj.1 (hs.symm.trans hr)
    exact hno (hany.2 ⟨s, List.mem_of_getElem? hr, hv, hl⟩)

/-! ### Committing -/

/-- The rows after the demotion that goes with a commit, if there is one. -/
def demoted (rows : List Row) : Option Record → Except StorageError (List Row)
  | some p => demote rows p
  | none => .ok rows

theorem committed_eq {rows : List Row} {previous : Option Record} :
    committed rows record previous =
      match rows.find? fun r => r.name = record.name with
      | some owner =>
        if owner.id ≠ record.id then .error (ownedBy record owner.id)
        else (demoted rows previous).bind fun rows => insert rows record
      | none => (demoted rows previous).bind fun rows => insert rows record := by
  unfold committed demoted
  cases rows.find? fun r => r.name = record.name with
  | none => cases previous <;> rfl
  | some owner =>
      by_cases h : owner.id = record.id
      · simp only [h, ne_eq, not_true_eq_false, if_false]
        cases previous <;> rfl
      · simp only [h, ne_eq, not_false_eq_true, if_true]
        rfl

/-- **A commit to the rows of records is one to the records.** -/
theorem committed_map {previous : Option Record} (h : Distinct (rs.map Record.imprint))
    (hp : ∀ p, previous = some p → p.imprint ∈ rs.map Record.imprint ∧ p.isLatest = false)
    {rows : List Row} :
    committed (rs.map Row.ofRecord) record previous = .ok rows ↔
      ∃ rs', Memory.committed rs record previous = .ok rs' ∧ rows = rs'.map Row.ofRecord := by
  have hdemoted : ∀ rows₁, demoted (rs.map Row.ofRecord) previous = .ok rows₁ ↔
      ∃ rs₁, Memory.demoted rs previous = .ok rs₁ ∧ rows₁ = rs₁.map Row.ofRecord := by
    intro rows₁
    cases previous with
    | none => simp [demoted, Memory.demoted, eq_comm]
    | some p => exact demote_map h (hp p rfl).1 (hp p rfl).2
  have hbind : ((demoted (rs.map Row.ofRecord) previous).bind fun rows => insert rows record) =
      .ok rows ↔ ∃ rs', ((Memory.demoted rs previous).bind fun rs => Memory.insert rs record) =
        .ok rs' ∧ rows = rs'.map Row.ofRecord := by
    cases hd : Memory.demoted rs previous with
    | error e =>
        cases hd' : demoted (rs.map Row.ofRecord) previous with
        | error e' => simp [Except.bind]
        | ok rows₁ =>
            obtain ⟨rs₁, hrs₁, -⟩ := (hdemoted rows₁).1 hd'
            rw [hd] at hrs₁
            cases hrs₁
    | ok rs₁ =>
        rw [(hdemoted _).2 ⟨rs₁, hd, rfl⟩]
        exact insert_map
  have hfind : ((rs.map Row.ofRecord).find? fun r => r.name = record.name) =
      (rs.find? fun r => r.name = record.name).map Row.ofRecord := by
    rw [List.find?_map]
    rfl
  -- both ask the same record about the identity of the name
  rw [committed_eq, Memory.committed_eq, hfind]
  cases rs.find? fun r => r.name = record.name with
  | none => exact hbind
  | some owner =>
      have hid : (Row.ofRecord owner).id = owner.id := rfl
      by_cases hown : owner.id = record.id
      · simp only [Option.map_some, hid, hown, ne_eq, not_true_eq_false, if_false]
        exact hbind
      · simp [hid, hown]

/-! ### Updating -/

theorem reviseAll_of_not {id : Uuid} {done rest : List Row}
    (h : ∀ row ∈ rest, row.isVersion id record.version = false) :
    reviseAll id record done rest = .ok (done ++ rest) := by
  induction rest generalizing done with
  | nil => rw [reviseAll, List.append_nil]
  | cons row rest ih =>
      rw [reviseAll, h row List.mem_cons_self]
      simp only [Bool.false_eq_true, if_false]
      rw [ih fun r hr => h r (List.mem_cons_of_mem _ hr), List.append_assoc]
      rfl

/-- The one row that is the version is revised, if it may stand beside all others. -/
theorem reviseAll_of_one {id : Uuid} {done before after : List Row} {row : Row}
    (hbefore : ∀ r ∈ before, r.isVersion id record.version = false)
    (hrow : row.isVersion id record.version = true)
    (hafter : ∀ r ∈ after, r.isVersion id record.version = false) :
    reviseAll id record done (before ++ row :: after) =
      (checkBeside (done ++ before ++ after) (revise record row)).map fun _ =>
        done ++ before ++ revise record row :: after := by
  -- the rows before the version go over to those that are done
  induction before generalizing done with
  | nil =>
      rw [List.nil_append, List.append_nil, reviseAll, hrow]
      simp only [if_true, bind, Except.bind]
      cases checkBeside (done ++ after) (revise record row) with
      | error e => rfl
      | ok u =>
          simp only [Except.map]
          rw [reviseAll_of_not hafter, List.append_assoc]
          rfl
  | cons r before ih =>
      rw [List.cons_append, reviseAll, hbefore r List.mem_cons_self]
      simp only [Bool.false_eq_true, if_false]
      rw [ih fun s hs => hbefore s (List.mem_cons_of_mem _ hs)]
      simp only [List.append_assoc, List.cons_append, List.nil_append]

/-- An update of the row of a stored version revises it, if it may stand beside all others. -/
theorem reviseAll_place (h : Distinct (rs.map Record.imprint))
    (hm : record.imprint ∈ rs.map Record.imprint) {i : Nat}
    (hi : Memory.place? rs record.id record.version = some i) :
    reviseAll record.id record [] (rs.map Row.ofRecord) =
      (checkBeside ((rs.eraseIdx i).map Row.ofRecord) (Row.ofRecord record)).map fun _ =>
        (rs.set i record).map Row.ofRecord := by
  obtain ⟨r, hr, hv⟩ := Memory.place?_eq_some hi
  have hlt := (List.getElem?_eq_some_iff.1 hr).1
  have hrow : (Row.ofRecord r).isVersion record.id record.version = true := hv
  have hsplit : rs.take i ++ r :: rs.drop (i + 1) = rs := by
    have hself := List.set_eq_take_append_cons_drop (l := rs) (i := i) (a := r)
    rw [if_pos hlt, ← (List.getElem?_eq_some_iff.1 hr).2, List.set_getElem_self] at hself
    rw [← (List.getElem?_eq_some_iff.1 hr).2]
    exact hself.symm
  have hother : ∀ row ∈ (rs.eraseIdx i).map Row.ofRecord,
      row.isVersion record.id record.version = false := by
    rw [List.forall_mem_map]
    intro s hs
    obtain ⟨j, hne, hj⟩ := List.mem_eraseIdx_iff_getElem?.1 hs
    cases ht : s.isVersion record.id record.version with
    | false => exact ht
    | true => exact absurd (h.eq_place hi hj ht) hne
  rw [List.eraseIdx_eq_take_drop_succ, List.map_append] at hother ⊢
  rw [List.set_eq_take_append_cons_drop, if_pos hlt, List.map_append, List.map_cons]
  conv => lhs; rw [← hsplit]
  rw [List.map_append, List.map_cons, reviseAll_of_one
    (fun row hmem => hother row (List.mem_append_left _ hmem)) hrow
    (fun row hmem => hother row (List.mem_append_right _ hmem)),
    Row.revise_ofRecord (h.imprint_eq hi hr hm), List.nil_append]

/-- A new state may stand beside all other rows, if no other row of the name is flagged or the new
state is not. -/
theorem checkBeside_eraseIdx (h : Distinct (rs.map Record.imprint))
    (hm : record.imprint ∈ rs.map Record.imprint) {i : Nat}
    (hi : Memory.place? rs record.id record.version = some i) :
    checkBeside ((rs.eraseIdx i).map Row.ofRecord) (Row.ofRecord record) = .ok () ↔
      (record.isLatest = true → ∀ j r, rs[j]? = some r → r.name = record.name →
        r.isLatest = true → j = i) := by
  obtain ⟨s, hs, -⟩ := Memory.place?_eq_some hi
  have himp := h.imprint_eq hi hs hm
  rw [checkBeside_eq_ok]
  simp only [List.forall_mem_map]
  constructor
  · rintro ⟨-, hflag⟩ hl j r hj hn hrl
    by_cases hne : j = i
    · exact hne
    · have hfalse : r.isLatest = false :=
        hflag hl r (List.mem_eraseIdx_iff_getElem?.2 ⟨j, hne, hj⟩) hn
      rw [hrl] at hfalse
      cases hfalse
  · intro hguard
    refine ⟨fun r hr hn hv => ?_, fun hl r hr hn => ?_⟩
    · obtain ⟨j, hne, hj⟩ := List.mem_eraseIdx_iff_getElem?.1 hr
      refine hne (h.versions (a := r.imprint) (b := s.imprint) (by simp [hj]) (by simp [hs]) ?_ ?_)
      · exact himp ▸ hn
      · exact himp ▸ hv
    · obtain ⟨j, hne, hj⟩ := List.mem_eraseIdx_iff_getElem?.1 hr
      cases hrl : r.isLatest with
      | false => exact hrl
      | true => exact absurd (hguard hl j r hj hn hrl) hne

/-- **An update of the row of a stored version** puts the new state in its place, if no other row of
the name is flagged or the new state is not. -/
theorem reviseAll_map (h : Distinct (rs.map Record.imprint))
    (hm : record.imprint ∈ rs.map Record.imprint) {i : Nat}
    (hi : Memory.place? rs record.id record.version = some i) {rows : List Row} :
    reviseAll record.id record [] (rs.map Row.ofRecord) = .ok rows ↔
      rows = (rs.set i record).map Row.ofRecord ∧
        (record.isLatest = true → ∀ j r, rs[j]? = some r → r.name = record.name →
          r.isLatest = true → j = i) := by
  rw [reviseAll_place h hm hi, ← checkBeside_eraseIdx h hm hi]
  cases checkBeside ((rs.eraseIdx i).map Row.ofRecord) (Row.ofRecord record) with
  | error e => simp [Except.map]
  | ok u => simp [Except.map, eq_comm]

/-! ### Reading -/

theorem mem_of_readRows {read : Row → Except StorageError Record} {rows : List (Nat × Row)}
    {xs : List (Nat × Record)} (h : readRows read rows = .ok xs) {x : Nat × Record} (hx : x ∈ xs) :
    ∃ row ∈ rows, read row.2 = .ok x.2 := by
  -- one row that cannot be read spoils the reading of all
  induction rows generalizing xs with
  | nil =>
      obtain rfl := Except.ok.inj h
      cases hx
  | cons row rows ih =>
      obtain ⟨n, row⟩ := row
      simp only [readRows, bind, Except.bind] at h
      cases hr : read row with
      | error e =>
          rw [hr] at h
          cases h
      | ok r =>
          rw [hr] at h
          cases hrest : readRows read rows with
          | error e =>
              rw [hrest] at h
              cases h
          | ok rest =>
              rw [hrest] at h
              obtain rfl := Except.ok.inj h
              rcases List.mem_cons.1 hx with rfl | hx
              · exact ⟨(n, row), List.mem_cons_self, hr⟩
              · obtain ⟨row', hmem, hread⟩ := ih hrest hx
                exact ⟨row', List.mem_cons_of_mem _ hmem, hread⟩

theorem snd_mem_of_mem_sequenced {rows : List Row} {a : Nat × Row} (h : a ∈ sequenced rows) :
    a.2 ∈ rows := by
  obtain ⟨⟨row, n⟩, hmem, rfl⟩ := List.mem_map.1 h
  exact (List.mem_zipIdx hmem).2.2 ▸ List.getElem_mem _

theorem name_of_selectedBy {filter : Filter} {row : Row} (h : row.selectedBy filter = true)
    {name : String} (hn : filter.name = some name) : row.name = name := by
  simp only [Row.selectedBy, hn, Filter.holds, Bool.and_eq_true, decide_eq_true_eq] at h
  exact h.1.1.1.1.1.1

theorem mem_of_mem_list {t : Rows} {filter : Filter} {cursor : Option String} {limit : Nat}
    {page : Page Record} (h : t.list filter cursor limit = .ok page) {x : Record}
    (hx : x ∈ page.items) :
    ∃ row ∈ t.rows, row.selectedBy filter = true ∧ row.record? = .ok x := by
  unfold list at h
  cases hs : Page.start? cursor with
  | error e => simp [hs, refuse] at h
  | ok start =>
      simp only [hs] at h
      split at h
      · simp [refuseClosed, refuse] at h
      · cases hread : readRows (Row.shownBy filter) (select t.rows filter start limit) with
        | error e => simp [hread, refuse] at h
        | ok xs =>
            simp only [hread, Except.ok.injEq] at h
            subst h
            rw [Page.items_ofSequenced] at hx
            obtain ⟨a, ha, rfl⟩ := List.mem_map.1 hx
            obtain ⟨row, hrow, hshown⟩ := mem_of_readRows hread ha
            obtain ⟨hseq, hsel⟩ := List.mem_filter.1 (List.mem_of_mem_take hrow)
            exact ⟨row.2, snd_mem_of_mem_sequenced hseq, (Bool.and_eq_true_iff.1 hsel).2,
              Row.record?_of_shownBy hshown⟩

theorem mem_of_getVersion {t : Rows} {id : Uuid} {version : String} {x : Record}
    (h : t.getVersion id version = .ok (some x)) :
    ∃ row ∈ t.rows, row.isVersion id version = true ∧ row.record? = .ok x := by
  unfold getVersion at h
  split at h
  · simp [refuseClosed, refuse] at h
  · cases hfind : t.rows.find? fun r => r.isVersion id version with
    | none =>
        rw [hfind] at h
        cases h
    | some row =>
        rw [hfind] at h
        have hv : row.isVersion id version = true := by simpa using List.find?_some hfind
        refine ⟨row, List.mem_of_find?_eq_some hfind, hv, ?_⟩
        simp only [answer, Option.map_some] at h
        cases hrec : row.record? with
        | error e =>
            rw [hrec] at h
            cases h
        | ok y =>
            rw [hrec] at h
            obtain rfl := Option.some_inj.1 (Except.ok.inj h)
            rfl

/-- **The table is a guarded ledger**: lossless bags are read as they are, and no update leaves a name
with two flagged rows. -/
instance : Ledger Rows where
  Keeps t rs := t.closed = false ∧ t.rows = rs.map Row.ofRecord
  Legible := Bag.Lossless
  Guarded := True
  effect {t rs c} now hk hd hr hc := by
    obtain ⟨hopen, hrows⟩ := hk
    cases c with
    | list filter cursor limit =>
        refine ⟨rs, ⟨hopen, hrows⟩, rfl, fun page hp x hx => ?_⟩
        obtain ⟨row, hrow, hsel, hrec⟩ := mem_of_mem_list hp hx
        obtain ⟨r, hmem, rfl⟩ := List.mem_map.1 (hrows ▸ hrow)
        exact ⟨r, hmem, Row.shows_of_record? (hr r hmem) hrec,
          fun name hn => name_of_selectedBy hsel hn⟩
    | getVersion id version =>
        refine ⟨rs, ⟨hopen, hrows⟩, rfl, fun x hx => ?_⟩
        obtain ⟨row, hrow, hv, hrec⟩ := mem_of_getVersion hx
        obtain ⟨r, hmem, rfl⟩ := List.mem_map.1 (hrows ▸ hrow)
        exact ⟨r, hmem, Row.shows_of_record? (hr r hmem) hrec, hv⟩
    | countRecent subject hours => exact ⟨rs, ⟨hopen, hrows⟩, rfl⟩
    | commit record previous =>
        simp only [Store.call, commit, hopen, Bool.false_eq_true, if_false]
        cases hres : committed t.rows record previous with
        | error e => exact ⟨rs, ⟨hopen, hrows⟩, .inl ⟨_, rfl, rfl⟩⟩
        | ok rows =>
            rw [hrows] at hres
            obtain ⟨rs', hok, rfl⟩ := (committed_map hd fun p he =>
              ⟨(hc.2 p he).2.2, (hc.2 p he).2.1⟩).1 hres
            exact ⟨rs', ⟨hopen, rfl⟩, .inr ⟨rfl, hok⟩⟩
    | update id record =>
        obtain ⟨-, rfl, hm⟩ := hc
        simp only [Store.call, update, hopen, Bool.false_eq_true, if_false]
        split
        · rename_i hany
          rw [hrows, List.any_map] at hany
          obtain ⟨r, hmem, hv⟩ := List.any_eq_true.1 hany
          obtain ⟨i, hi⟩ := Memory.place?_isSome hmem hv
          cases hres : reviseAll record.id record [] t.rows with
          | error e => exact ⟨rs, ⟨hopen, hrows⟩, .inl ⟨_, rfl, rfl⟩⟩
          | ok rows =>
              rw [hrows] at hres
              obtain ⟨rfl, hguard⟩ := (reviseAll_map hd hm hi).1 hres
              exact ⟨rs.set i record, ⟨hopen, rfl⟩, .inr ⟨rfl, i, hi, rfl, fun _ => hguard⟩⟩
        · exact ⟨rs, ⟨hopen, hrows⟩, .inl ⟨_, rfl, rfl⟩⟩
    | getById _ | create _ | close => exact hc.elim

theorem keeps_empty : Ledger.Keeps ({} : Rows) [] := ⟨rfl, rfl⟩

theorem eq_of_keeps {t : Rows} {rs : List Record} (h : Ledger.Keeps t rs) :
    t = ⟨rs.map Row.ofRecord, false⟩ := by
  obtain ⟨hopen, hrows⟩ := h
  rw [← hopen, ← hrows]

end Rows

end Storage

end ManifestRegistry
