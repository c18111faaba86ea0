/-
**When a table selects what the records say.**

A listing of a table is told by its columns, and what it shows is read of the documents.  Columns are
written together with the documents that they are copied from, with one exception: a demotion replaces
the documents of all flagged rows with an identity and a version and leaves the name in their columns.
Two names may share an identity and a version, and then the row of one of them gets the document of the
other.  No commit ever touches such a row again.  So listings are those of the records that can be read
exactly as long as no demotion has met a row of another name.

Main definitions:

* `Storage.paginated` — a listing told by the records themselves;
* `Storage.Rows.Honest` — a write that adds a record, or demotes one that can be read;
* `Storage.Row.Follows` — columns copied from a record, its name apart.

Main results:

* `Storage.Rows.follows_perform` — honest writes keep all columns but the name in line with the documents;
* `Storage.Rows.list_eq_paginated` — a table whose columns select like its records lists them;
* `Storage.Rows.listings_true_iff` — **when all listings are those of the records**;
* `Storage.Rows.exists_foreign_listing` — a table that lists a record under another name.
-/

import ManifestRegistry.Proofs.Storage.Columns
import ManifestRegistry.Proofs.Storage.Uniqueness

set_option relaxedAutoImplicit false
set_option autoImplicit false

namespace ManifestRegistry

namespace Storage

/-! ### Listings of records -/

/-- The page of those of some numbered records that a filter selects. -/
def paginated (stored : List (Nat × Record)) (filter : Filter) (cursor : Option String)
    (limit : Nat) : Reply (Page Record) :=
  match Page.paginate (stored.filter fun a => filter.selects a.2) cursor limit with
  | .ok page => .ok page
  | .error e => refuse e

/-- Entries that can all be read are listed like their records. -/
theorem listing_shown (as : List (Nat × Record)) (cursor : Option String) (limit : Nat) :
    listing (as.map Entry.shown) cursor limit = match Page.paginate as cursor limit with
      | .ok page => .ok page
      | .error e => refuse e := by
  unfold listing Page.paginate
  cases Page.start? cursor with
  | error e => rfl
  | ok start =>
      have hbehind : (as.map Entry.shown).filter (fun e => Page.isBehind start e.1) =
          (as.filter fun a => Page.isBehind start a.1).map Entry.shown := by
        rw [List.filter_map]
        rfl
      simp only [hbehind, ← List.map_take, readAll_eq_ok.2 rfl]

theorem selects_of_mem_paginated {stored : List (Nat × Record)} {filter : Filter}
    {cursor : Option String} {limit : Nat} {page : Page Record}
    (h : paginated stored filter cursor limit = .ok page) {x : Record} (hx : x ∈ page.items) :
    filter.selects x = true := by
  have hlisting : listing ((stored.filter fun a => filter.selects a.2).map Entry.shown) cursor limit =
      .ok page := (listing_shown _ _ _).trans h
  obtain ⟨n, hn⟩ := mem_of_mem_listing hlisting hx
  obtain ⟨a, ha, hshown⟩ := List.mem_map.1 hn
  obtain rfl : a.2 = x := Except.ok.inj (congrArg Prod.snd hshown)
  exact (List.mem_filter.1 ha).2

/-- Lists with the same images have them also when both are filtered in the same way. -/
theorem map_filter_of_map_eq {α β γ : Type} {f : α → γ} {g : β → γ} {p : α → Bool} {q : β → Bool}
    {as : List α} {bs : List β} (h : as.map f = bs.map g)
    (hpq : ∀ a ∈ as, ∀ b ∈ bs, f a = g b → p a = q b) :
    (as.filter p).map f = (bs.filter q).map g := by
  induction as generalizing bs with
  | nil =>
      obtain rfl := List.map_eq_nil_iff.1 h.symm
      rfl
  | cons a as ih =>
      cases bs with
      | nil => cases h
      | cons b bs =>
          obtain ⟨hhead, htail⟩ := List.cons.inj h
          have hrest := ih htail fun a ha b hb =>
            hpq a (List.mem_cons_of_mem _ ha) b (List.mem_cons_of_mem _ hb)
          rw [List.filter_cons, List.filter_cons, hpq a List.mem_cons_self b List.mem_cons_self hhead]
          split
          · rw [List.map_cons, List.map_cons, hhead, hrest]
          · exact hrest

/-! ### Columns and documents -/

namespace Row

/-- A row has the document of a record, and columns copied from it, apart from the name. -/
structure Follows (row : Row) (r : Record) : Prop where
  document : row.document = r.text
  id : row.id = r.id
  version : row.version = r.version
  isLatest : row.isLatest = r.isLatest
  updatedAt : row.updatedAt = r.updatedAt.stamp

theorem follows_ofRecord (r : Record) : (ofRecord r).Follows r := ⟨rfl, rfl, rfl, rfl, rfl⟩

variable {row : Row}

theorem read_eq {r x : Record} (hdoc : row.document = r.text) (hx : row.record? = .ok x) :
    x.manifest = r.manifest ∧ x.registration = r.registration.settled := by
  rw [record?_of_document hdoc] at hx
  cases hbag : r.bag.reread with
  | error fault =>
      rw [hbag] at hx
      cases hx
  | ok bag =>
      rw [hbag] at hx
      obtain rfl := Except.ok.inj hx
      exact ⟨rfl, rfl⟩

/-- **A filter selects a row if it selects what is read of it**, provided that the name in the column is
the one that is read. -/
theorem selectedBy_of_read {r x : Record} (h : row.Follows r) (hx : row.record? = .ok x)
    (hname : row.name = x.name) (hera : x.updatedAt.InEra) {f : Filter}
    (hf : ∀ since, f.updatedSince = some since → since.IsReading ∧ since.InEra) :
    row.selectedBy f = f.selects x := by
  obtain ⟨hmanifest, hregistration⟩ := read_eq h.document hx
  have hversion : row.version = x.version := by rw [h.version, Record.version, Record.version, hmanifest]
  have hid : row.id = x.id := by
    rw [h.id, Record.id, Record.id, hregistration]
    rfl
  have hlatest : row.isLatest = x.isLatest := by
    rw [h.isLatest, Record.isLatest, Record.isLatest, hregistration]
    rfl
  have hupdated : x.updatedAt = r.updatedAt.settled := by
    rw [Record.updatedAt, hregistration]
    rfl
  have hstamp : row.updatedAt = x.updatedAt.stamp := by
    rw [h.updatedAt, hupdated, Instant.stamp_settled]
  have hurls : documentUrls row.document = x.manifest.remoteUrls := by
    rw [h.document, documentUrls_text, hmanifest]
  have hsince : Filter.holds f.updatedSince (fun since => Text.before since.stamp row.updatedAt) =
      Filter.holds f.updatedSince fun since => since.before x.updatedAt := by
    cases hs : f.updatedSince with
    | none => simp only [Filter.holds]
    | some since =>
        obtain ⟨hread, hsera⟩ := hf since hs
        have hreading : x.updatedAt.IsReading := hupdated ▸ r.updatedAt.isReading_settled
        simp only [Filter.holds, hstamp,
          Instant.before_stamp hsera.2 hera.2 (.inl hsera) hread hreading]
  simp only [selectedBy, Filter.selects, hsince, hurls, hname, hversion, hid, hlatest,
    isTangled_of_read h.document hx, Bool.false_or]

end Row

namespace Rows

variable {rows rows' : List Row} {t : Rows} {stored : List (Nat × Record)}

/-! ### Honest writes -/

/-- A write that adds a record and demotes, if anything, a record that can be read of the table. -/
def Honest (rows : List Row) : Write → Prop
  | .create _ | .commit _ none => True
  | .update _ _ => False
  | .commit _ (some p) => ∃ row ∈ rows, ∃ x now, row.record? = .ok x ∧ p = x.demoted now

/-- **Such writes keep all columns but the name in line with the documents.** -/
theorem follows_perform (now : Instant) (h : ∀ row ∈ t.rows, ∃ r, row.Follows r) {w : Write}
    (hw : Honest t.rows w) : ∀ row ∈ (w.perform now t).2.rows, ∃ r, row.Follows r := by
  refine forall_perform now h fun rows' hchange row hcame => ?_
  cases hcame with
  | added record => exact ⟨record, Row.follows_ofRecord record⟩
  | kept hold => exact h row hold
  | revised => exact hw.elim
  | demoted hold hl =>
      obtain ⟨-, -, x, moment, -, rfl⟩ := hw
      simp only [isLatestVersion, Row.isVersion, Bool.and_eq_true, decide_eq_true_eq] at hl
      exact ⟨x.demoted moment, rfl, hl.1.1, hl.1.2, rfl, rfl⟩

/-- A row without a flag stays as it is in all writes but updates. -/
theorem mem_perform (now : Instant) {row : Row} (hrow : row ∈ t.rows) (hflag : row.isLatest = false)
    {w : Write} (hw : Honest t.rows w) : row ∈ (w.perform now t).2.rows := by
  rcases perform_cases now t w with hsame | ⟨rows', hchange, hleft⟩
  · rwa [hsame]
  · rw [hleft]
    cases w with
    | create record =>
        rw [insert_eq_ok hchange]
        exact List.mem_append_left _ hrow
    | update id record => exact hw.elim
    | commit record demote =>
        obtain ⟨-, rows₁, hd, hins⟩ := committed_eq_ok.1 hchange
        rw [insert_eq_ok hins]
        refine List.mem_append_left _ ?_
        cases demote with
        | none =>
            obtain rfl : t.rows = rows₁ := Except.ok.inj hd
            exact hrow
        | some p =>
            simp only [demoted, Rows.demote] at hd
            split at hd
            · obtain rfl := Except.ok.inj hd
              have hother : ¬isLatestVersion p row = true := by simp [isLatestVersion, hflag]
              exact List.mem_map.2 ⟨row, hrow, if_neg hother⟩
            · cases hd

/-- A demotion that is not truthful leaves a row without a flag under a name that is not the one in its
document. -/
theorem misnamed_perform (now : Instant) (hopen : t.closed = false) {w : Write}
    (hw : Honest t.rows w) (hfalse : ¬Truthful t.rows w) : ∃ row ∈ (w.perform now t).2.rows,
      row.isLatest = false ∧ ∃ p : Record, row.document = p.text ∧ row.name ≠ p.name := by
  match w with
  | .create _ | .update _ _ | .commit _ none => exact (hfalse trivial).elim
  | .commit record (some p) =>
    simp only [Truthful, not_forall, not_and] at hfalse
    obtain ⟨rows', hchange, hfalse⟩ := hfalse
    have hunflagged : p.isLatest = false := by
      obtain ⟨-, -, x, moment, -, rfl⟩ := hw
      rfl
    obtain ⟨row, hrow, hlatest, hname⟩ := hfalse hunflagged
    have hleft : ((Write.commit record (some p)).perform now t).2 = { t with rows := rows' } := by
      simp only [Write.perform, Store.call, commit, hopen, Bool.false_eq_true, if_false, hchange, write]
    obtain ⟨-, rows₁, hd, hins⟩ := committed_eq_ok.1 hchange
    rw [hleft]
    simp only [insert_eq_ok hins]
    simp only [demoted, Rows.demote] at hd
    split at hd
    · obtain rfl := Except.ok.inj hd
      exact ⟨demoteRow p row, List.mem_append_left _ (List.mem_map.2 ⟨row, hrow, if_pos hlatest⟩), rfl,
        p, rfl, hname⟩
    · cases hd

/-! ### Listings of a table -/

/-- The entries of a table that can be read are those of the records that are read. -/
theorem map_sequenced_eq (hread : records? (sequenced rows) = .ok stored) :
    (sequenced rows).map (fun a => (a.1, a.2.record?)) = stored.map Entry.shown := by
  rw [records?, readRows_eq] at hread
  exact readAll_eq_ok.1 hread

theorem records?_sequenced (xs : List Record) (h : rows.map Row.record? = xs.map .ok) :
    records? (sequenced rows) = .ok (Memory.sequenced xs) := by
  have hrows : (sequenced rows).map (fun a => (a.1, a.2.record?)) =
      ((rows.map Row.record?).zipIdx 1).map fun a => (a.2, a.1) := by
    rw [sequenced, List.zipIdx_map, List.map_map, List.map_map]
    rfl
  have hrecords : (Memory.sequenced xs).map Entry.shown =
      ((xs.map (.ok : Record → Except StorageError Record)).zipIdx 1).map fun a => (a.2, a.1) := by
    rw [Memory.sequenced, List.zipIdx_map, List.map_map, List.map_map]
    rfl
  rw [records?, readRows_eq, hrows, h, ← hrecords]
  exact readAll_eq_ok.2 rfl

theorem exists_read (hread : records? (sequenced rows) = .ok stored) {row : Row} (hrow : row ∈ rows) :
    ∃ n x, (n, row) ∈ sequenced rows ∧ row.record? = .ok x ∧ (n, x) ∈ stored := by
  rw [← map_snd_sequenced rows] at hrow
  obtain ⟨⟨n, row⟩, hmem, rfl⟩ := List.mem_map.1 hrow
  have hentry := List.mem_map_of_mem (f := fun a : Nat × Row => (a.1, a.2.record?)) hmem
  rw [map_sequenced_eq hread] at hentry
  obtain ⟨⟨k, x⟩, hx, hshown⟩ := List.mem_map.1 hentry
  obtain ⟨rfl, hok⟩ := Prod.mk.inj hshown
  exact ⟨k, x, hmem, hok.symm, hx⟩

/-- **A table whose columns select like its records lists them.** -/
theorem list_eq_paginated (hopen : t.closed = false)
    (hread : records? (sequenced t.rows) = .ok stored) {filter : Filter}
    (hdoc : ∀ row ∈ t.rows, ∃ r : Record, row.document = r.text)
    (hselect : ∀ row ∈ t.rows, ∀ a ∈ stored, row.record? = .ok a.2 →
      row.selectedBy filter = filter.selects a.2)
    (cursor : Option String) (limit : Nat) :
    t.list filter cursor limit = paginated stored filter cursor limit := by
  have hlist := congrArg Prod.fst
    (Catalog.call_list (show Catalog.IsOpen t from hopen) filter cursor limit .epoch)
  have hentries : Catalog.selected t filter =
      (stored.filter fun a => filter.selects a.2).map Entry.shown := by
    have hshown : ∀ a ∈ sequenced t.rows, a.2.shownBy filter = a.2.record? := by
      intro a ha
      have hrow := snd_mem_of_mem_sequenced ha
      obtain ⟨r, hr⟩ := hdoc a.2 hrow
      obtain ⟨-, x, -, hx, -⟩ := exists_read hread hrow
      rw [Row.shownBy_of_read hr hx, hx]
    refine map_filter_of_map_eq ((List.map_congr_left fun a ha => ?_).trans (map_sequenced_eq hread)) ?_
    · rw [hshown a ha]
    · intro a ha b hb heq
      exact hselect a.2 (snd_mem_of_mem_sequenced ha) b hb
        ((hshown a ha).symm.trans (congrArg Prod.snd heq))
  rw [hentries, listing_shown] at hlist
  exact hlist

/-- A table from which one row is selected shows what is read of it. -/
theorem list_of_select {filter : Filter} {limit n : Nat} {row : Row} {x : Record}
    (h : select rows filter none limit = [(n, row)]) (hx : row.shownBy filter = .ok x)
    (hlimit : 1 < limit) :
    list ⟨rows, false⟩ filter none limit = .ok ⟨[x], none⟩ := by
  have hfull : ¬(0 < limit ∧ [(n, x)].length = limit) := fun hboth => Nat.ne_of_lt hlimit hboth.2
  have hpage : Page.ofSequenced [(n, x)] limit = ⟨[x], none⟩ := by
    rw [Page.ofSequenced, if_neg hfull]
    rfl
  simp only [list, Page.start?, h, readRows, hx, Bool.false_eq_true, if_false, bind, Except.bind, hpage]

/-- A row of another name than the record in its document spoils a listing by its name. -/
theorem list_ne_paginated (hopen : t.closed = false)
    (hread : records? (sequenced t.rows) = .ok stored) {row : Row} (hrow : row ∈ t.rows) {p : Record}
    (hdoc : row.document = p.text) (hname : row.name ≠ p.name) :
    t.list { name := some row.name } none t.rows.length ≠
      paginated stored { name := some row.name } none t.rows.length := by
  obtain ⟨n, x, hmem, hx, -⟩ := exists_read hread hrow
  intro heq
  have hlist := congrArg Prod.fst (Catalog.call_list (show Catalog.IsOpen t from hopen)
    { name := some row.name } none t.rows.length .epoch)
  cases hpage : paginated stored { name := some row.name } none t.rows.length with
  | error stop =>
      have hno : Page.start? none = .ok none := rfl
      simp only [paginated, Page.paginate, hno] at hpage
      cases hpage
  | ok page =>
      have hok : listing (Catalog.selected t { name := some row.name }) none t.rows.length = .ok page :=
        hlist.symm.trans (heq.trans hpage)
      obtain ⟨start, as, hstart, htake, rfl⟩ := listing_eq_ok.1 hok
      obtain rfl := Except.ok.inj hstart
      -- the page has room for all rows
      have hlen : (Catalog.selected t { name := some row.name }).length ≤ t.rows.length := by
        have hlength : (sequenced t.rows).length = t.rows.length := by simp [sequenced]
        rw [← hlength]
        exact Nat.le_trans (Nat.le_of_eq (List.length_map _)) (List.length_filter_le _ _)
      have hall : (Catalog.selected t { name := some row.name }).filter
          (fun e => Page.isBehind none e.1) = Catalog.selected t { name := some row.name } :=
        List.filter_eq_self.2 fun _ _ => rfl
      rw [hall, List.take_of_length_le hlen] at htake
      have hentry : (n, row.record?) ∈ Catalog.selected t { name := some row.name } :=
        List.mem_map.2 ⟨(n, row), List.mem_filter.2 ⟨hmem, by simp [Row.selectedBy, Filter.holds]⟩, rfl⟩
      rw [htake, hx] at hentry
      obtain ⟨a, ha, hshown⟩ := List.mem_map.1 hentry
      obtain rfl : a.2 = x := Except.ok.inj (congrArg Prod.snd hshown)
      have hselects := selects_of_mem_paginated hpage (List.mem_map_of_mem (f := Prod.snd) ha)
      have hreads : a.2.name = p.name := by rw [Record.name, Record.name, (Row.read_eq hdoc hx).1]
      simp only [Filter.selects, Filter.holds, Bool.and_true, decide_eq_true_eq] at hselects
      exact hname (hselects.symm.trans hreads)

/-! ### After any honest writes -/

/-- **When all listings are those of the records**: after writes that add records and demote what can be
read of the table, every filter, cursor and limit get the page of the records that the filter selects,
or the same error, exactly if each demotion has met rows of the demoted record's name only. -/
theorem listings_true_iff (now : Instant) (ws : List Write)
    (hhonest : ∀ ws' w, ws' ++ [w] <+: ws → Honest (Write.fill now ({} : Rows) ws').rows w)
    (hread : records? (sequenced (Write.fill now ({} : Rows) ws).rows) = .ok stored)
    (hera : ∀ a ∈ stored, a.2.updatedAt.InEra) :
    (∀ filter : Filter, (∀ since, filter.updatedSince = some since → since.IsReading ∧ since.InEra) →
      ∀ cursor limit, (Store.call (.list filter cursor limit) now (Write.fill now ({} : Rows) ws)).1 =
        paginated stored filter cursor limit) ↔
      ∀ ws' w, ws' ++ [w] <+: ws → Truthful (Write.fill now ({} : Rows) ws').rows w := by
  have hopen := Write.closed_fill_table now
  constructor
  · intro hlist ws' w hw
    by_contra hfalse
    obtain ⟨row, hrow, hflag, p, hdoc, hname⟩ :=
      misnamed_perform now (hopen ws') (hhonest ws' w hw) hfalse
    obtain ⟨rest, rfl⟩ := hw
    -- the row is still there after all other writes
    have hlast : row ∈ (Write.fill now ({} : Rows) (ws' ++ [w] ++ rest)).rows := by
      rw [Write.fill_append, Write.fill_append_singleton]
      refine Write.fill_of_prefixes (P := fun t : Rows => row ∈ t.rows)
        (Q := fun t w => Honest t.rows w) hrow (fun t w ht hw => mem_perform now ht hflag hw) ?_
      intro ws₁ w₁ hprefix
      have hearlier := hhonest (ws' ++ [w] ++ ws₁) w₁
        (by rw [List.append_assoc]; exact (List.prefix_append_right_inj _).2 hprefix)
      rwa [Write.fill_append, Write.fill_append_singleton] at hearlier
    exact list_ne_paginated (hopen _) hread hlast hdoc hname
      (hlist { name := some row.name } (fun _ h => by cases h) none _)
  · intro htrue filter hf cursor limit
    have hkept : (∀ row ∈ (Write.fill now ({} : Rows) ws).rows, ∃ r, row.Follows r) ∧
        ∀ row ∈ (Write.fill now ({} : Rows) ws).rows, Agrees row :=
      Write.fill_of_prefixes
        (P := fun t : Rows => (∀ row ∈ t.rows, ∃ r, row.Follows r) ∧ ∀ row ∈ t.rows, Agrees row)
        (Q := fun t w => Honest t.rows w ∧ Truthful t.rows w)
        ⟨fun _ hrow => (List.not_mem_nil hrow).elim, fun _ hrow => (List.not_mem_nil hrow).elim⟩
        (fun t w ht hw => ⟨follows_perform now ht.1 hw.1, agrees_perform now ht.2 hw.2⟩)
        fun ws' w hw => ⟨hhonest ws' w hw, htrue ws' w hw⟩
    refine list_eq_paginated (hopen ws) hread (fun row hrow => ?_) ?_ cursor limit
    · obtain ⟨r, hfollows⟩ := hkept.1 row hrow
      exact ⟨r, hfollows.document⟩
    intro row hrow a ha hx
    obtain ⟨r, hfollows⟩ := hkept.1 row hrow
    have hname : row.name = a.2.name :=
      (congrArg Label.name ((hkept.2 row hrow).label_eq hx)).symm
    exact Row.selectedBy_of_read hfollows hx hname (hera a ha) hf

/-- The writes of a list and what stands before them: the first one, or those of the rest. -/
theorem prefix_cons_iff {a w : Write} {ws ws' : List Write} : ws' ++ [w] <+: a :: ws ↔
    ws' = [] ∧ w = a ∨ ∃ ws₁, ws' = a :: ws₁ ∧ ws₁ ++ [w] <+: ws := by
  cases ws' with
  | nil => simp
  | cons b ws' => simp [and_assoc, eq_comm]

theorem not_prefix_nil {w : Write} {ws' : List Write} : ¬ws' ++ [w] <+: [] := by simp

open Write

/-- What is read of a row that has the document of a dated record without a bag. -/
theorem read_of_text {row : Row} {r : Record} (hdoc : row.document = r.text) (hd : r.IsDated)
    (hbag : r.bag = []) (hby : row.publishedBy = r.publishedBy) : row.record? = .ok r := by
  have hnone : Bag.reread r.bag = .ok [] := by
    rw [hbag]
    rfl
  rw [Row.record?_of_text hdoc hd, hnone]
  show Except.ok { r with bag := [], publishedBy := row.publishedBy } = _
  rw [hby, ← hbag]

theorem isDated_first : first.IsDated := Registration.isDated_new (by decide)

theorem isDated_second : second.IsDated := Registration.isDated_new (by decide)

theorem read_first : (Row.ofRecord first).record? = .ok first :=
  read_of_text rfl isDated_first rfl rfl

theorem read_second : (Row.ofRecord second).record? = .ok second :=
  read_of_text rfl isDated_second rfl rfl

/-- What is read of a row that the demotion of the first version has met. -/
theorem read_demoteRow {row : Row} (hby : row.publishedBy = none) :
    (demoteRow (first.demoted .epoch) row).record? = .ok (first.demoted .epoch) :=
  read_of_text rfl (isDated_first.demoted (by decide)) rfl hby

/-- The first version is demoted to a record that can be read of its row. -/
theorem honest_demotion {rows : List Row} (h : Row.ofRecord first ∈ rows) :
    Honest rows (.commit second (some (first.demoted .epoch))) :=
  ⟨_, h, first, .epoch, read_first, rfl⟩

theorem fill_succession : fill .epoch ({} : Rows) succession =
    ⟨[demoteRow (first.demoted .epoch) (Row.ofRecord first), Row.ofRecord second], false⟩ := by
  have hcommitted : committed [Row.ofRecord first] second (some (first.demoted .epoch)) =
      .ok [demoteRow (first.demoted .epoch) (Row.ofRecord first), Row.ofRecord second] := rfl
  show (write _ second (committed [Row.ofRecord first] second (some (first.demoted .epoch)))).2 = _
  rw [hcommitted]
  rfl

/-- Two versions, the first of which has been demoted as is due: a listing of the flagged ones with a
part of their name shows the second. -/
theorem listings_true_succession :
    records? (sequenced (fill .epoch ({} : Rows) succession).rows) =
      .ok [(1, first.demoted .epoch), (2, second)] ∧
    (Store.call (.list { isLatest := some true, nameContains := some "/B" } none 10) .epoch
      (fill .epoch ({} : Rows) succession)).1 = .ok ⟨[second], none⟩ := by
  have hread : records? (sequenced (fill .epoch ({} : Rows) succession).rows) =
      .ok [(1, first.demoted .epoch), (2, second)] := by
    rw [fill_succession]
    refine records?_sequenced [first.demoted .epoch, second] ?_
    rw [List.map_cons, List.map_singleton, read_demoteRow rfl, read_second]
    rfl
  have hpage : paginated [(1, first.demoted .epoch), (2, second)]
      { isLatest := some true, nameContains := some "/B" } none 10 = .ok ⟨[second], none⟩ := rfl
  refine ⟨hread, ((listings_true_iff .epoch succession ?_ hread ?_).2 ?_ _ ?_ _ _).trans hpage⟩
  · intro ws' w hw
    rcases prefix_cons_iff.1 hw with ⟨rfl, rfl⟩ | ⟨ws₁, rfl, hw₁⟩
    · trivial
    · rcases prefix_cons_iff.1 hw₁ with ⟨rfl, rfl⟩ | ⟨ws₂, rfl, hw₂⟩
      · exact honest_demotion List.mem_cons_self
      · exact (not_prefix_nil hw₂).elim
  · intro a ha
    rcases List.mem_pair.1 ha with rfl | rfl <;> decide
  · intro ws' w hw
    rcases prefix_cons_iff.1 hw with ⟨rfl, rfl⟩ | ⟨ws₁, rfl, hw₁⟩
    · trivial
    · rcases prefix_cons_iff.1 hw₁ with ⟨rfl, rfl⟩ | ⟨ws₂, rfl, hw₂⟩
      · intro rows' _
        refine ⟨rfl, fun row hrow _ => ?_⟩
        rw [List.mem_singleton.1 (show row ∈ [Row.ofRecord first] from hrow)]
        rfl
      · exact (not_prefix_nil hw₂).elim
  · exact fun _ h => by cases h

/-- A version of another name with the identity and the version of the first one. -/
def namesake : Record where
  manifest := { name := "c/d", version := "1.0.0" }
  registration := .new ⟨1⟩ .epoch true

/-- The first version is demoted beside its namesake. -/
def besideNamesake : List Write :=
  [.create first, .create namesake, .commit second (some (first.demoted .epoch))]

theorem fill_besideNamesake : fill .epoch ({} : Rows) besideNamesake =
    ⟨[demoteRow (first.demoted .epoch) (Row.ofRecord first),
      demoteRow (first.demoted .epoch) (Row.ofRecord namesake), Row.ofRecord second], false⟩ := by
  have hcommitted : committed [Row.ofRecord first, Row.ofRecord namesake] second
      (some (first.demoted .epoch)) = .ok [demoteRow (first.demoted .epoch) (Row.ofRecord first),
        demoteRow (first.demoted .epoch) (Row.ofRecord namesake), Row.ofRecord second] := rfl
  show (write _ second (committed [Row.ofRecord first, Row.ofRecord namesake] second
    (some (first.demoted .epoch)))).2 = _
  rw [hcommitted]
  rfl

/-- **A table lists a record under another name** after honest writes: who asks for the namesake is
shown the first version, although no record of the name asked for can be read. -/
theorem exists_foreign_listing :
    (∀ ws' w, ws' ++ [w] <+: besideNamesake → Honest (fill .epoch ({} : Rows) ws').rows w) ∧
    records? (sequenced (fill .epoch ({} : Rows) besideNamesake).rows) =
      .ok [(1, first.demoted .epoch), (2, first.demoted .epoch), (3, second)] ∧
    (Store.call (.list { name := some "c/d" } none 10) .epoch
      (fill .epoch ({} : Rows) besideNamesake)).1 = .ok ⟨[first.demoted .epoch], none⟩ ∧
    paginated [(1, first.demoted .epoch), (2, first.demoted .epoch), (3, second)]
      { name := some "c/d" } none 10 = .ok ⟨[], none⟩ := by
  have hnamesake : (demoteRow (first.demoted .epoch) (Row.ofRecord namesake)).record? =
      .ok (first.demoted .epoch) := read_demoteRow rfl
  refine ⟨?_, ?_, ?_, rfl⟩
  · intro ws' w hw
    rcases prefix_cons_iff.1 hw with ⟨rfl, rfl⟩ | ⟨ws₁, rfl, hw₁⟩
    · trivial
    · rcases prefix_cons_iff.1 hw₁ with ⟨rfl, rfl⟩ | ⟨ws₂, rfl, hw₂⟩
      · trivial
      · rcases prefix_cons_iff.1 hw₂ with ⟨rfl, rfl⟩ | ⟨ws₃, rfl, hw₃⟩
        · exact honest_demotion List.mem_cons_self
        · exact (not_prefix_nil hw₃).elim
  · rw [fill_besideNamesake]
    refine records?_sequenced [first.demoted .epoch, first.demoted .epoch, second] ?_
    rw [List.map_cons, List.map_cons, List.map_singleton, read_demoteRow rfl, hnamesake, read_second]
    rfl
  · rw [fill_besideNamesake]
    have hselect : select [demoteRow (first.demoted .epoch) (Row.ofRecord first),
        demoteRow (first.demoted .epoch) (Row.ofRecord namesake), Row.ofRecord second]
        { name := some "c/d" } none 10 =
          [(2, demoteRow (first.demoted .epoch) (Row.ofRecord namesake))] := rfl
    have hlist : ∀ rows : List Row, (Store.call (.list { name := some "c/d" } none 10) .epoch
        (⟨rows, false⟩ : Rows)).1 = list ⟨rows, false⟩ { name := some "c/d" } none 10 := fun _ => rfl
    rw [hlist]
    exact list_of_select hselect ((Row.shownBy_of_remoteUrl rfl _).trans hnamesake) (by decide)

end Rows

end Storage

end ManifestRegistry
