/-
**What is read of a table.**

A table answers from the documents of its rows.  If each row is read back as the record that was written to
it, all that can be asked of the table is answered from those records, and there is no reading at which
the store itself fails; and if all is answered from them, each row is read back.

Main definitions:

* `Storage.Rows.Intact` — records whose rows are read back as they are;
* `Storage.Rows.newest?` — the latest version of a server among records;
* `Storage.Rows.Renders` — **a table of which nothing is read but some records**.

Main results:

* `Storage.Rows.Intact.renders`, `Storage.Rows.Renders.record?_eq` — **the rows of records render them
  exactly if each is read back**;
* `Storage.Rows.call_ne_backend` — such a table never fails by itself.
-/

import ManifestRegistry.Proofs.Storage.Columns
import ManifestRegistry.Proofs.Storage.Listing
import ManifestRegistry.Proofs.Storage.Rows

set_option relaxedAutoImplicit false
set_option autoImplicit false

namespace ManifestRegistry

namespace Storage

namespace Rows

variable {rs : List Record}

/-! ### The rows of records -/

theorem sequenced_map (rs : List Record) : sequenced (rs.map Row.ofRecord) =
    (Memory.sequenced rs).map fun a => (a.1, Row.ofRecord a.2) := by
  rw [sequenced, Memory.sequenced, List.zipIdx_map, List.map_map, List.map_map]
  rfl

/-- The numbered records whose rows a filter selects. -/
def picked (rs : List Record) (filter : Filter) : List (Nat × Record) :=
  (Memory.sequenced rs).filter fun a => (Row.ofRecord a.2).selectedBy filter

/-- The latest version of a server: the last flagged one, or the last one if none is flagged. -/
def newest? (rs : List Record) (id : Uuid) : Option Record :=
  ((rs.filter fun r => r.id = id).filter Record.isLatest).getLast? <|>
    (rs.filter fun r => r.id = id).getLast?

theorem list_map (rs : List Record) (filter : Filter) (cursor : Option String) (limit : Nat) :
    list ⟨rs.map Row.ofRecord, false⟩ filter cursor limit =
      listing ((picked rs filter).map fun a => (a.1, (Row.ofRecord a.2).shownBy filter)) cursor limit := by
  have hcall := Catalog.call_list (s := (⟨rs.map Row.ofRecord, false⟩ : Rows)) rfl filter cursor limit
    .epoch
  refine (congrArg Prod.fst hcall).trans ?_
  show listing (((sequenced (rs.map Row.ofRecord)).filter fun a => a.2.selectedBy filter).map
    fun a => (a.1, a.2.shownBy filter)) cursor limit = _
  rw [sequenced_map, List.filter_map, List.map_map]
  rfl

theorem getById_map (rs : List Record) (id : Uuid) : getById ⟨rs.map Row.ofRecord, false⟩ id =
    answer ((newest? rs id).map Row.ofRecord) := by
  have hversions : (rs.map Row.ofRecord).filter (fun r => r.id = id) =
      (rs.filter fun r => r.id = id).map Row.ofRecord := by
    rw [List.filter_map]
    rfl
  have hflagged : ((rs.filter fun r => r.id = id).map Row.ofRecord).filter Row.isLatest =
      ((rs.filter fun r => r.id = id).filter Record.isLatest).map Row.ofRecord := by
    rw [List.filter_map]
    rfl
  simp only [getById, Bool.false_eq_true, if_false, hversions, hflagged, List.getLast?_map, newest?]
  cases ((rs.filter fun r => r.id = id).filter Record.isLatest).getLast? <;> rfl

theorem getVersion_map (rs : List Record) (id : Uuid) (version : String) :
    getVersion ⟨rs.map Row.ofRecord, false⟩ id version =
      answer ((rs.find? fun r => r.isVersion id version).map Row.ofRecord) := by
  simp only [getVersion, Bool.false_eq_true, if_false, List.find?_map]
  rfl

/-! ### Rows that are read back -/

/-- Records whose rows are read back as they are. -/
def Intact (rs : List Record) : Prop := ∀ r ∈ rs, (Row.ofRecord r).record? = .ok r

/-- Records whose bags are lossless and whose instants a clock can show are read back as they are. -/
theorem intact_of_lossless (hdated : ∀ r ∈ rs, r.IsDated) (hbags : ∀ r ∈ rs, r.bag.Lossless) :
    Intact rs := by
  intro r hr
  have hsame : r.bag.reread = .ok r.bag := hbags r hr
  rw [Row.record?_ofRecord (hdated r hr), hsame]

/-- The rows of intact records are read as these records. -/
theorem Intact.map_record? (h : Intact rs) :
    (rs.map Row.ofRecord).map Row.record? = rs.map .ok := by
  rw [List.map_map]
  refine List.map_congr_left fun r hr => ?_
  rw [Function.comp_apply, h r hr]

/-- All that is asked of a table is answered from some records. -/
structure Renders (t : Rows) (rs : List Record) : Prop where
  list : ∀ filter cursor limit, t.list filter cursor limit =
    listing ((picked rs filter).map Entry.shown) cursor limit
  getById : ∀ id, t.getById id = .ok (newest? rs id)
  getVersion : ∀ id version, t.getVersion id version = .ok (rs.find? fun r => r.isVersion id version)

theorem mem_of_newest? {id : Uuid} {r : Record} (h : newest? rs id = some r) : r ∈ rs := by
  unfold newest? at h
  cases hflagged : ((rs.filter fun r => r.id = id).filter Record.isLatest).getLast? with
  | some l =>
      rw [hflagged] at h
      obtain rfl : l = r := Option.some_inj.1 h
      exact (List.mem_filter.1 (List.mem_filter.1 (List.mem_of_getLast? hflagged)).1).1
  | none =>
      rw [hflagged] at h
      exact (List.mem_filter.1 (List.mem_of_getLast? h)).1

/-- What is found among intact records is read. -/
theorem Intact.answer_map (h : Intact rs) {found : Option Record}
    (hfound : ∀ r, found = some r → r ∈ rs) : answer (found.map Row.ofRecord) = .ok found := by
  cases found with
  | none => rfl
  | some r => simp only [answer, Option.map_some, h r (hfound r rfl)]

/-- **The rows of intact records render them.** -/
theorem Intact.renders (h : Intact rs) : Renders ⟨rs.map Row.ofRecord, false⟩ rs where
  list filter cursor limit := by
    have hshown : (picked rs filter).map (fun a => (a.1, (Row.ofRecord a.2).shownBy filter)) =
        (picked rs filter).map Entry.shown := by
      refine List.map_congr_left fun a ha => ?_
      rw [Row.shownBy_of_read rfl (h a.2 (Memory.snd_mem_of_mem_sequenced (List.mem_filter.1 ha).1))]
      rfl
    rw [list_map, hshown]
  getById id := by rw [getById_map, h.answer_map fun r hr => mem_of_newest? hr]
  getVersion id version := by
    rw [getVersion_map, h.answer_map fun r hr => List.mem_of_find?_eq_some hr]

/-- **If the rows of distinct records render them, each is read back.** -/
theorem Renders.record?_eq (h : Renders ⟨rs.map Row.ofRecord, false⟩ rs)
    (hd : Distinct (rs.map Record.imprint)) {r : Record} (hr : r ∈ rs) :
    (Row.ofRecord r).record? = .ok r := by
  have hread := h.getVersion r.id r.version
  rw [getVersion_map, hd.find?_isVersion hr] at hread
  simp only [answer, Option.map_some] at hread
  cases hrow : (Row.ofRecord r).record? with
  | error e =>
      rw [hrow] at hread
      cases hread
  | ok x =>
      rw [hrow] at hread
      obtain rfl := Option.some_inj.1 (Except.ok.inj hread)
      rfl

/-! ### Tables that do not fail -/

theorem checkBeside_ne_backend (others : List Row) (row : Row) (cause : String) :
    checkBeside others row ≠ .error (.backend cause) := by
  unfold checkBeside
  split
  · exact fun h => nomatch h
  · split <;> exact fun h => nomatch h

theorem insert_ne_backend (rows : List Row) (record : Record) (cause : String) :
    insert rows record ≠ .error (.backend cause) := by
  simp only [insert, bind, Except.bind]
  cases hcheck : checkBeside rows (Row.ofRecord record) with
  | error e =>
      intro h
      obtain rfl := Except.error.inj h
      exact checkBeside_ne_backend _ _ cause hcheck
  | ok _ =>
      rintro ⟨⟩

theorem reviseAll_ne_backend (id : Uuid) (record : Record) (done rest : List Row) (cause : String) :
    reviseAll id record done rest ≠ .error (.backend cause) := by
  induction rest generalizing done with
  | nil => exact fun h => nomatch h
  | cons row rest ih =>
      rw [reviseAll]
      split
      · simp only [bind, Except.bind]
        cases hcheck : checkBeside (done ++ rest) (revise record row) with
        | error e =>
            intro h
            obtain rfl := Except.error.inj h
            exact checkBeside_ne_backend _ _ cause hcheck
        | ok _ => exact ih _
      · exact ih _

theorem committed_ne_backend (rows : List Row) (record : Record) (previous : Option Record)
    (cause : String) : committed rows record previous ≠ .error (.backend cause) := by
  have hbind : ((demoted rows previous).bind fun rows => insert rows record) ≠
      .error (.backend cause) := by
    cases hdem : demoted rows previous with
    | ok rows₁ => exact insert_ne_backend rows₁ record cause
    | error e =>
        intro h
        obtain rfl := Except.error.inj h
        cases previous with
        | none => cases hdem
        | some p =>
            simp only [demoted, demote] at hdem
            split at hdem <;> cases hdem
  rw [committed_eq]
  split
  · split
    · rintro ⟨⟩
    · exact hbind
  · exact hbind

/-- What a write comes to is what becomes of the rows. -/
theorem write_ne_backend {t : Rows} {record : Record} {changed : Except StorageError (List Row)}
    {cause : String} (h : changed ≠ .error (.backend cause)) :
    (t.write record changed).1 ≠ refuse (.backend cause) := by
  cases changed with
  | ok rows => exact fun hw => nomatch hw
  | error e =>
      intro hw
      obtain rfl := Stop.failed.inj (Except.error.inj hw)
      exact h rfl

/-- **A table whose rows are read back never fails by itself.** -/
theorem call_ne_backend (h : Intact rs) (c : Call) (now : Instant) (cause : String) :
    (Store.call c now (⟨rs.map Row.ofRecord, false⟩ : Rows)).1 ≠ refuse (.backend cause) := by
  cases c with
  | list filter cursor limit =>
      show list ⟨rs.map Row.ofRecord, false⟩ filter cursor limit ≠ _
      rw [h.renders.list]
      intro hlist
      rcases listing_eq_error hlist with ⟨e, hstart, he⟩ | ⟨n, e, hmem, -⟩
      · obtain rfl := Stop.failed.inj he
        obtain ⟨raw, hraw⟩ := Page.start?_eq_error hstart
        cases hraw
      · obtain ⟨a, -, ha⟩ := List.mem_map.1 hmem
        cases congrArg Prod.snd ha
  | getById id =>
      show getById ⟨rs.map Row.ofRecord, false⟩ id ≠ _
      rw [h.renders.getById]
      exact fun hget => nomatch hget
  | getVersion id version =>
      show getVersion ⟨rs.map Row.ofRecord, false⟩ id version ≠ _
      rw [h.renders.getVersion]
      exact fun hget => nomatch hget
  | countRecent subject hours =>
      simp only [Store.call, countRecent, Bool.false_eq_true, if_false]
      cases now.minusHours? hours <;> exact fun hcount => nomatch hcount
  | create record => exact write_ne_backend (insert_ne_backend _ _ _)
  | update id record =>
      simp only [Store.call, update, Bool.false_eq_true, if_false]
      split
      · exact write_ne_backend (reviseAll_ne_backend _ _ _ _ _)
      · exact fun hupdate => nomatch hupdate
  | commit record previous => exact write_ne_backend (committed_ne_backend _ _ _ _)
  | close => exact fun hclose => nomatch hclose

end Rows

end Storage

end ManifestRegistry
