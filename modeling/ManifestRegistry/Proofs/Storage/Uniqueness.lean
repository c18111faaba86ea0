/-
**Which writes keep listings unique.**

A record that is added is checked against all others: no name gets a version twice or a second flagged
one.  What is put in place of a stored record is not checked in the same way.  A list of records takes
whatever an update or a demotion puts there.  A table checks its columns on every write, so these are
always unique, but a demotion leaves the name in the columns and takes the flag from them whatever the
document says that it writes beside them; listings are read from the documents.

Main definitions:

* `Storage.Unique` — no name has a version twice or two flagged records;
* `Storage.ListsUnique` — whatever a store lists without conditions is unique;
* `Storage.Write.fill` — a store after some writes;
* `Storage.Memory.Intrudes` — a write that puts a record beside one that it clashes with;
* `Storage.Rows.Truthful` — a write that demotes, if at all, to a document that says what the columns say;
* `Storage.Rows.Came` — how a row came about that is there after a write.

Main results:

* `Storage.Memory.unique_perform` — what one write to a list does to uniqueness;
* `Storage.Rows.came_of_changes` — **what a write that goes through leaves of a table**;
* `Storage.Rows.apart_perform` — the columns of a table stay unique whatever is written;
* `Storage.Write.unique_listings` — **when listings stay unique over any writes**.
-/

import ManifestRegistry.Proofs.Records.Settled
import ManifestRegistry.Proofs.Storage.Cabinet
import ManifestRegistry.Proofs.Storage.Listing
import ManifestRegistry.Proofs.Storage.Writes
import Mathlib.Data.List.Induction
import Mathlib.Data.List.Perm.Basic

set_option relaxedAutoImplicit false
set_option autoImplicit false

namespace ManifestRegistry

/-! ### Clashes -/

/-- What a record must not share with another one. -/
structure Label where
  name : String
  version : String
  isLatest : Bool
deriving DecidableEq

/-- The label of a record. -/
def Record.label (r : Record) : Label := ⟨r.name, r.version, r.isLatest⟩

namespace Label

/-- One name, and one version or two flags. -/
def Clashes (a b : Label) : Prop :=
  a.name = b.name ∧ (a.version = b.version ∨ a.isLatest = true ∧ b.isLatest = true)

instance (a b : Label) : Decidable (a.Clashes b) := by
  unfold Clashes
  infer_instance

theorem Clashes.symm {a b : Label} (h : a.Clashes b) : b.Clashes a :=
  ⟨h.1.symm, h.2.imp Eq.symm And.symm⟩

/-- Without its flag a label clashes with fewer others. -/
theorem Clashes.of_demoted {a b a' b' : Label} (ha : a'.name = a.name ∧ a'.version = a.version)
    (hb : b'.name = b.name ∧ b'.version = b.version) (hal : a'.isLatest = true → a.isLatest = true)
    (hbl : b'.isLatest = true → b.isLatest = true) (h : a'.Clashes b') : a.Clashes b :=
  ⟨by rw [← ha.1, ← hb.1, h.1], h.2.imp (fun hv => by rw [← ha.2, ← hb.2, hv]) (.imp hal hbl)⟩

/-- Labels no two of which clash. -/
def Apart (ls : List Label) : Prop := ls.Pairwise fun a b => ¬a.Clashes b

theorem Apart.sublist {ls ls' : List Label} (h : Apart ls) (hsub : ls'.Sublist ls) : Apart ls' :=
  List.Pairwise.sublist hsub h

theorem Apart.perm {ls ls' : List Label} (h : Apart ls) (hperm : ls.Perm ls') : Apart ls' :=
  List.Pairwise.perm h hperm fun hno hyes => hno hyes.symm

theorem apart_append_singleton {ls : List Label} {l : Label} :
    Apart (ls ++ [l]) ↔ Apart ls ∧ ∀ a ∈ ls, ¬a.Clashes l := by
  simp [Apart, List.pairwise_append]

/-- A label put in a place has to be apart from those in all other places. -/
theorem apart_set {ls : List Label} {i : Nat} (hi : i < ls.length) {l : Label} :
    Apart (ls.set i l) ↔ Apart (ls.eraseIdx i) ∧ ∀ a ∈ ls.eraseIdx i, ¬a.Clashes l := by
  have hperm : (ls.set i l).Perm (ls.eraseIdx i ++ [l]) :=
    (List.set_perm_cons_eraseIdx hi l).trans (List.perm_append_singleton _ _).symm
  rw [← apart_append_singleton]
  exact ⟨fun h => h.perm hperm, fun h => h.perm hperm.symm⟩

end Label

namespace Storage

open Label

/-- What the columns of a row say. -/
def Row.label (row : Row) : Label := ⟨row.name, row.version, row.isLatest⟩

/-- No name has a version twice or more than one flagged record. -/
structure Unique (rs : List Record) : Prop where
  versions : (rs.map fun r => (r.name, r.version)).Nodup
  latest : ∀ name, (rs.filter fun r => r.name = name && r.isLatest).length ≤ 1

variable {rs rs' : List Record}

theorem length_filter_le_one {α : Type} {as : List α} {test : α → Bool} :
    (as.filter test).length ≤ 1 ↔ as.Pairwise fun a b => ¬(test a = true ∧ test b = true) := by
  induction as with
  | nil => simp
  | cons a as ih =>
      rw [List.pairwise_cons, ← ih]
      cases ha : test a with
      | false => simp [ha]
      | true =>
          rw [List.filter_cons_of_pos ha, List.length_cons, Nat.succ_le_succ_iff, Nat.le_zero,
            List.length_eq_zero_iff, List.filter_eq_nil_iff]
          constructor
          · intro hnone
            refine ⟨fun b hb hboth => hnone b hb hboth.2, ?_⟩
            rw [List.filter_eq_nil_iff.2 hnone]
            exact Nat.zero_le _
          · exact fun h b hb htest => h.1 b hb ⟨rfl, htest⟩

theorem unique_iff : Unique rs ↔ Apart (rs.map Record.label) := by
  have hlatest : (∀ name, (rs.filter fun r => r.name = name && r.isLatest).length ≤ 1) ↔
      rs.Pairwise fun r s => ¬(r.name = s.name ∧ r.isLatest = true ∧ s.isLatest = true) := by
    simp only [length_filter_le_one, Bool.and_eq_true, decide_eq_true_eq]
    constructor
    · intro h
      rw [List.pairwise_iff_forall_sublist]
      intro r s hrs ⟨hn, hr, hs⟩
      exact List.pairwise_iff_forall_sublist.1 (h s.name) hrs ⟨⟨hn, hr⟩, rfl, hs⟩
    · intro h name
      exact h.imp fun hno hboth => hno ⟨hboth.1.1.trans hboth.2.1.symm, hboth.1.2, hboth.2.2⟩
  have hversions : (rs.map fun r => (r.name, r.version)).Nodup ↔
      rs.Pairwise fun r s => ¬(r.name = s.name ∧ r.version = s.version) := by
    simp only [List.Nodup, List.pairwise_map, ne_eq, Prod.mk.injEq]
  have hsplit : Apart (rs.map Record.label) ↔
      (rs.Pairwise fun r s => ¬(r.name = s.name ∧ r.version = s.version)) ∧
        rs.Pairwise fun r s => ¬(r.name = s.name ∧ r.isLatest = true ∧ s.isLatest = true) := by
    rw [Apart, List.pairwise_map, ← List.pairwise_and_iff]
    refine ⟨.imp fun hno => ?_, .imp fun hno => ?_⟩
    · exact ⟨fun h => hno ⟨h.1, .inl h.2⟩, fun h => hno ⟨h.1, .inr h.2⟩⟩
    · exact fun h => h.2.elim (fun hv => hno.1 ⟨h.1, hv⟩) fun hl => hno.2 ⟨h.1, hl⟩
  rw [hsplit, ← hversions, ← hlatest]
  exact ⟨fun h => ⟨h.versions, h.latest⟩, fun h => ⟨h.1, h.2⟩⟩

/-! ### Listings without conditions -/

/-- Whatever page a store lists without conditions, no two records on it clash. -/
def ListsUnique {σ : Type} [Store σ] (now : Instant) (s : σ) : Prop :=
  ∀ cursor limit page, (Store.call (.list {} cursor limit) now s).1 = .ok page → Unique page.items

/-- The records that can be read of some entries. -/
def shelf (es : List Entry) : List Record := es.filterMap fun e => e.2.toOption

theorem items_sublist {es : List Entry} {cursor : Option String} {limit : Nat} {page : Page Record}
    (h : listing es cursor limit = .ok page) : page.items.Sublist (shelf es) := by
  obtain ⟨start, as, -, htake, rfl⟩ := listing_eq_ok.1 h
  have hsub : (as.map Entry.shown).Sublist es :=
    htake ▸ (List.take_sublist _ _).trans List.filter_sublist
  have hitems : shelf (as.map Entry.shown) = as.map Prod.snd := by
    simp [shelf, List.filterMap_map, Function.comp_def, Entry.shown, Except.toOption]
  rw [Page.items_ofSequenced, ← hitems]
  exact hsub.filterMap _

/-! ### A store after some writes -/

/-- A store after some writes, whether they go through or not. -/
def Write.fill {σ : Type} [Store σ] (now : Instant) (s : σ) (ws : List Write) : σ :=
  ws.foldl (fun s w => (w.perform now s).2) s

theorem Write.fill_append {σ : Type} [Store σ] (now : Instant) (s : σ) (ws ws' : List Write) :
    fill now s (ws ++ ws') = fill now (fill now s ws) ws' := List.foldl_append

theorem Write.fill_append_singleton {σ : Type} [Store σ] (now : Instant) (s : σ) (ws : List Write)
    (w : Write) : fill now s (ws ++ [w]) = (w.perform now (fill now s ws)).2 := by
  simp [fill]

/-- **What each write preserves that is as it should be holds after all of them.** -/
theorem Write.fill_of_prefixes {σ : Type} [Store σ] {now : Instant} {s : σ} {P : σ → Prop}
    {Q : σ → Write → Prop} (hs : P s) (hstep : ∀ s w, P s → Q s w → P (w.perform now s).2)
    {ws : List Write} (hQ : ∀ ws' w, ws' ++ [w] <+: ws → Q (fill now s ws') w) :
    P (fill now s ws) := by
  induction ws using List.reverseRecOn with
  | nil => exact hs
  | append_singleton ws w ih =>
      rw [fill_append_singleton]
      exact hstep _ w (ih fun ws' w' h => hQ ws' w' (h.trans (List.prefix_append _ _)))
        (hQ ws w List.prefix_rfl)

/-! ### A list of records -/

namespace Memory

/-- A write that goes through and puts a record in place of another, beside a third one that it clashes
with.  Records that are added never do. -/
def Intrudes (rs : List Record) : Write → Prop
  | .create _ | .commit _ none => False
  | .update id record => ∃ i, place? rs id record.version = some i ∧
      ∃ r ∈ rs.eraseIdx i, r.label.Clashes record.label
  | .commit record (some p) => ∃ rs' i, committed rs record (some p) = .ok rs' ∧
      place? rs p.id p.version = some i ∧ ∃ r ∈ rs.eraseIdx i, r.label.Clashes p.label

/-- A record that is added is apart from all others. -/
theorem unique_insert {record : Record} (h : insert rs record = .ok rs') : Unique rs' ↔ Unique rs := by
  obtain ⟨hversion, hflag, rfl⟩ := insert_eq_ok.1 h
  have hapart : ∀ a ∈ rs.map Record.label, ¬a.Clashes record.label := by
    rw [List.forall_mem_map]
    rintro r hr ⟨hn, hv | ⟨hrl, hl⟩⟩
    · exact hversion r hr hn hv
    · rw [show r.label.isLatest = r.isLatest from rfl, hflag hl r hr hn] at hrl
      cases hrl
  rw [unique_iff, unique_iff, List.map_append, List.map_singleton, apart_append_singleton]
  exact and_iff_left hapart

/-- A record put in a place has to be apart from those in all other places. -/
theorem unique_set (h : Unique rs) {i : Nat} (hi : i < rs.length) {record : Record} :
    Unique (rs.set i record) ↔ ¬∃ r ∈ rs.eraseIdx i, r.label.Clashes record.label := by
  have hi' : i < (rs.map Record.label).length := by rwa [List.length_map]
  have herase : Apart ((rs.eraseIdx i).map Record.label) :=
    (unique_iff.1 h).sublist ((List.eraseIdx_sublist rs i).map _)
  rw [unique_iff, List.map_set, apart_set hi', List.eraseIdx_map, and_iff_right herase,
    List.forall_mem_map]
  simp only [not_exists, not_and]

/-- **What one write to a list does to uniqueness**: only what intrudes breaks it. -/
theorem unique_perform (now : Instant) {m : Memory} (hopen : m.closed = false) (h : Unique m.records)
    (w : Write) : Unique (w.perform now m).2.records ↔ ¬Intrudes m.records w := by
  cases w with
  | create record =>
      simp only [Write.perform, Store.call, create, hopen, Bool.false_eq_true, if_false, Intrudes,
        not_false_eq_true, iff_true]
      cases hins : insert m.records record with
      | error e => exact h
      | ok rs' => exact (unique_insert hins).2 h
  | update id record =>
      simp only [Write.perform, Store.call, update, hopen, Bool.false_eq_true, if_false, Intrudes]
      cases hplace : place? m.records id record.version with
      | none => simpa using h
      | some i =>
          obtain ⟨r, hr, -⟩ := place?_eq_some hplace
          simp only [Option.some.injEq, exists_eq_left']
          exact unique_set h (List.getElem?_eq_some_iff.1 hr).1
  | commit record demote =>
      simp only [Write.perform, Store.call, commit_eq, hopen, Bool.false_eq_true, if_false]
      cases hc : committed m.records record demote with
      | error e =>
          cases demote with
          | none => simpa [Intrudes] using h
          | some p => simpa [Intrudes, hc] using h
      | ok rs' =>
          obtain ⟨-, rs₁, hd, hins⟩ := committed_eq_ok.1 hc
          simp only [unique_insert hins]
          cases demote with
          | none =>
              obtain rfl : m.records = rs₁ := Except.ok.inj hd
              simpa [Intrudes] using h
          | some p =>
              obtain ⟨i, r, hplace, hr, -, rfl⟩ := demote_eq_ok.1 hd
              simp only [Intrudes, hc, hplace, Except.ok.injEq, Option.some.injEq,
                exists_and_left, exists_eq_left']
              exact unique_set h (List.getElem?_eq_some_iff.1 hr).1

theorem closed_perform (now : Instant) (m : Memory) (w : Write) :
    (w.perform now m).2.closed = m.closed := by
  cases hresult : (w.perform now m).1 with
  | error stop => rw [(whole_perform now m w).nothing stop hresult]
  | ok r =>
      obtain ⟨-, rs', -, hm⟩ := (whole_perform now m w).all r hresult
      rw [hm]

theorem shelf_selected (m : Memory) : shelf (Catalog.selected m {}) = m.records := by
  show List.filterMap _ (((sequenced m.records).filter fun _ => true).map Entry.shown) = m.records
  rw [List.filter_true, List.filterMap_map]
  show List.filterMap (fun a : Nat × Record => some a.2) _ = _
  rw [List.filterMap_eq_map', map_snd_sequenced]

/-- An open list lists unique records exactly if its records are unique: one page can show all. -/
theorem listsUnique_iff (now : Instant) {m : Memory} (hopen : m.closed = false) :
    ListsUnique now m ↔ Unique m.records := by
  constructor
  · intro h
    have hall : m.list {} none m.records.length =
        .ok (Page.ofSequenced (sequenced m.records) m.records.length) := by
      have hlen : (sequenced m.records).length ≤ m.records.length := by simp [sequenced]
      simp only [list, hopen, Bool.false_eq_true, if_false, Page.paginate, Page.start?,
        Page.isBehind, Filter.selects_empty, List.filter_true, List.take_of_length_le hlen]
    have hpage := h none m.records.length _ hall
    rwa [Page.items_ofSequenced, map_snd_sequenced] at hpage
  · intro h cursor limit page hpage
    rw [Catalog.call_list (show Catalog.IsOpen m from hopen)] at hpage
    have hsub := items_sublist hpage
    rw [shelf_selected] at hsub
    exact unique_iff.2 ((unique_iff.1 h).sublist (hsub.map _))

end Memory

/-! ### A table of rows -/

namespace Rows

variable {rows rows' : List Row} {record : Record}

/-- A write that, if it goes through, demotes to documents without flags and under the names that the
rows have. -/
def Truthful (rows : List Row) : Write → Prop
  | .create _ | .update _ _ | .commit _ none => True
  | .commit record (some p) => ∀ rows', committed rows record (some p) = .ok rows' →
      p.isLatest = false ∧ ∀ row ∈ rows, isLatestVersion p row = true → row.name = p.name

/-- The document of a row is one that says what the columns say. -/
def Agrees (row : Row) : Prop := ∃ r : Record, row.document = r.text ∧ r.label = row.label

theorem Agrees.label_eq {row : Row} (h : Agrees row) {x : Record} (hx : row.record? = .ok x) :
    x.label = row.label := by
  obtain ⟨r, hdoc, hlabel⟩ := h
  rw [Row.record?_of_document hdoc] at hx
  cases hbag : r.bag.reread with
  | error fault =>
      rw [hbag] at hx
      cases hx
  | ok bag =>
      rw [hbag] at hx
      obtain rfl := Except.ok.inj hx
      exact hlabel

/-! The columns are checked on each write. -/

theorem apart_of_checkBeside {row : Row} (h : Apart (rows.map Row.label))
    (hcheck : checkBeside rows row = .ok ()) : Apart (rows.map Row.label ++ [row.label]) := by
  obtain ⟨hversion, hflag⟩ := checkBeside_eq_ok.1 hcheck
  rw [apart_append_singleton, List.forall_mem_map]
  refine ⟨h, ?_⟩
  rintro r hr ⟨hn, hv | ⟨hrl, hl⟩⟩
  · exact hversion r hr hn hv
  · rw [show r.label.isLatest = r.isLatest from rfl, hflag hl r hr hn] at hrl
    cases hrl

theorem apart_insert (h : Apart (rows.map Row.label)) (hins : insert rows record = .ok rows') :
    Apart (rows'.map Row.label) := by
  simp only [insert, bind, Except.bind] at hins
  split at hins
  · cases hins
  · rename_i hcheck
    obtain rfl := Except.ok.inj hins
    rw [List.map_append]
    exact apart_of_checkBeside h hcheck

theorem apart_reviseAll {id : Uuid} {done rest : List Row}
    (h : Apart ((done ++ rest).map Row.label)) (hrev : reviseAll id record done rest = .ok rows') :
    Apart (rows'.map Row.label) := by
  -- each row that is revised is checked beside all others as they are then
  induction rest generalizing done with
  | nil =>
      obtain rfl := Except.ok.inj hrev
      rwa [List.append_nil] at h
  | cons row rest ih =>
      rw [reviseAll] at hrev
      split at hrev
      · simp only [bind, Except.bind] at hrev
        split at hrev
        · cases hrev
        · rename_i hcheck
          have hothers : Apart ((done ++ rest).map Row.label) :=
            h.sublist ((List.sublist_append_iff.2
              ⟨done, rest, rfl, .refl _, List.sublist_cons_self _ _⟩).map _)
          refine ih ((apart_of_checkBeside hothers hcheck).perm ?_) hrev
          rw [← List.map_singleton, ← List.map_append, List.append_assoc, List.append_assoc]
          exact (List.Perm.append_left done List.perm_append_comm).map _
      · refine ih ?_ hrev
        rwa [List.append_assoc, List.singleton_append]

theorem apart_demoted {demote : Option Record} (h : Apart (rows.map Row.label))
    (hd : demoted rows demote = .ok rows') : Apart (rows'.map Row.label) := by
  cases demote with
  | none =>
      obtain rfl : rows = rows' := Except.ok.inj hd
      exact h
  | some p =>
      simp only [demoted, Rows.demote] at hd
      split at hd
      · obtain rfl := Except.ok.inj hd
        have hless : ∀ row : Row, (if isLatestVersion p row then demoteRow p row else row).name =
            row.name ∧ (if isLatestVersion p row then demoteRow p row else row).version = row.version ∧
              ((if isLatestVersion p row then demoteRow p row else row).isLatest = true →
                row.isLatest = true) := by
          intro row
          split
          · exact ⟨rfl, rfl, fun hl => by cases hl⟩
          · exact ⟨rfl, rfl, id⟩
        rw [Apart, List.map_map, List.pairwise_map]
        refine (List.pairwise_map.1 h).imp ?_
        intro a b hno hclash
        obtain ⟨han, hav, hal⟩ := hless a
        obtain ⟨hbn, hbv, hbl⟩ := hless b
        exact hno (hclash.of_demoted ⟨han, hav⟩ ⟨hbn, hbv⟩ hal hbl)
      · cases hd

/-! One write changes the rows in one way. -/

/-- What a write that goes through changes rows to. -/
def Changes (rows : List Row) : Write → List Row → Prop
  | .create record, rows' => insert rows record = .ok rows'
  | .update id record, rows' => reviseAll id record [] rows = .ok rows'
  | .commit record demote, rows' => committed rows record demote = .ok rows'

/-- A write changes the rows or leaves the table as it was. -/
theorem perform_cases (now : Instant) (t : Rows) (w : Write) : (w.perform now t).2 = t ∨
    ∃ rows', Changes t.rows w rows' ∧ (w.perform now t).2 = { t with rows := rows' } := by
  have hwrite : ∀ {record : Record} {changed : Except StorageError (List Row)},
      (t.write record changed).2 = t ∨
        ∃ rows', changed = .ok rows' ∧ (t.write record changed).2 = { t with rows := rows' } := by
    intro record changed
    cases changed with
    | error e => exact .inl rfl
    | ok rows' => exact .inr ⟨rows', rfl, rfl⟩
  cases w with
  | create record =>
      simp only [Write.perform, Store.call, create]
      split
      · exact .inl rfl
      · exact hwrite
  | update id record =>
      simp only [Write.perform, Store.call, update]
      split
      · exact .inl rfl
      · split
        · exact hwrite
        · exact .inl rfl
  | commit record demote =>
      simp only [Write.perform, Store.call, commit]
      split
      · exact .inl rfl
      · exact hwrite

/-- How a row came about that is there after a write. -/
inductive Came (rows : List Row) : Write → Row → Prop
  | added {w : Write} (record : Record) : Came rows w (Row.ofRecord record)
  | kept {w : Write} {row : Row} (hrow : row ∈ rows) : Came rows w row
  | revised {id : Uuid} {record : Record} {row : Row} (hrow : row ∈ rows)
      (hv : row.isVersion id record.version = true) :
      Came rows (.update id record) (revise record row)
  | demoted {record p : Record} {row : Row} (hrow : row ∈ rows) (hl : isLatestVersion p row = true) :
      Came rows (.commit record (some p)) (demoteRow p row)

/-- **A write that goes through leaves new rows, old ones, and old ones revised or demoted.** -/
theorem came_of_changes {w : Write} (h : Changes rows w rows') : ∀ row ∈ rows', Came rows w row := by
  intro row' hrow'
  cases w with
  | create record =>
      rw [insert_eq_ok h] at hrow'
      rcases List.mem_append.1 hrow' with hold | hnew
      · exact .kept hold
      · exact List.mem_singleton.1 hnew ▸ .added record
  | update id record =>
      rw [reviseAll_eq_ok h, List.nil_append] at hrow'
      obtain ⟨row, hrow, rfl⟩ := List.mem_map.1 hrow'
      split
      · rename_i hv
        exact .revised hrow hv
      · exact .kept hrow
  | commit record demote =>
      obtain ⟨-, rows₁, hd, hins⟩ := committed_eq_ok.1 h
      rw [insert_eq_ok hins] at hrow'
      rcases List.mem_append.1 hrow' with hold | hnew
      · cases demote with
        | none =>
            obtain rfl : rows = rows₁ := Except.ok.inj hd
            exact .kept hold
        | some p =>
            simp only [Rows.demoted, Rows.demote] at hd
            split at hd
            · obtain rfl := Except.ok.inj hd
              obtain ⟨row, hrow, rfl⟩ := List.mem_map.1 hold
              split
              · rename_i hl
                exact .demoted hrow hl
              · exact .kept hrow
            · cases hd
      · exact List.mem_singleton.1 hnew ▸ .added record

/-- What is true of all rows stays so if it is true of those that come about in a write. -/
theorem forall_perform {P : Row → Prop} (now : Instant) {t : Rows} (h : ∀ row ∈ t.rows, P row)
    {w : Write} (hcame : ∀ rows', Changes t.rows w rows' → ∀ row, Came t.rows w row → P row) :
    ∀ row ∈ (w.perform now t).2.rows, P row := by
  rcases perform_cases now t w with hsame | ⟨rows', hchange, hleft⟩
  · rwa [hsame]
  · rw [hleft]
    exact fun row hrow => hcame rows' hchange row (came_of_changes hchange row hrow)

/-- **The columns of a table stay unique whatever is written.** -/
theorem apart_perform (now : Instant) {t : Rows} (h : Apart (t.rows.map Row.label)) (w : Write) :
    Apart ((w.perform now t).2.rows.map Row.label) := by
  rcases perform_cases now t w with hsame | ⟨rows', hchange, hleft⟩
  · rw [hsame]
    exact h
  · rw [hleft]
    cases w with
    | create record => exact apart_insert h hchange
    | update id record =>
        have hall : Apart (([] ++ t.rows).map Row.label) := h
        exact apart_reviseAll hall hchange
    | commit record demote =>
        obtain ⟨-, rows₁, hd, hins⟩ := committed_eq_ok.1 hchange
        exact apart_insert (apart_demoted h hd) hins

/-- **Documents go on agreeing with their columns** as long as demotions are truthful. -/
theorem agrees_perform (now : Instant) {t : Rows} (h : ∀ row ∈ t.rows, Agrees row) {w : Write}
    (hw : Truthful t.rows w) : ∀ row ∈ (w.perform now t).2.rows, Agrees row := by
  refine forall_perform now h fun rows' hchange row hcame => ?_
  cases hcame with
  | added record => exact ⟨record, rfl, rfl⟩
  | kept hold => exact h row hold
  | revised hold hv =>
      refine ⟨_, rfl, ?_⟩
      simp only [Row.isVersion, Bool.and_eq_true, decide_eq_true_eq] at hv
      simp only [Record.label, Row.label, revise, hv.2]
  | demoted hold hl =>
      obtain ⟨hunflagged, hnamed⟩ := hw rows' hchange
      refine ⟨_, rfl, ?_⟩
      have hv := hl
      simp only [isLatestVersion, Row.isVersion, Bool.and_eq_true, decide_eq_true_eq] at hv
      simp only [Record.label, Row.label, demoteRow, hnamed _ hold hl, hv.1.2, hunflagged]

/-- What is read of rows whose documents agree with them has the labels of some of them, in order. -/
theorem labels_sublist (h : ∀ row ∈ rows, Agrees row) :
    ((rows.filterMap fun row => row.record?.toOption).map Record.label).Sublist
      (rows.map Row.label) := by
  induction rows with
  | nil => exact .slnil
  | cons row rows ih =>
      have hrest := ih fun r hr => h r (List.mem_cons_of_mem _ hr)
      rw [List.filterMap_cons]
      cases hread : row.record? with
      | error e => exact hrest.cons _
      | ok x =>
          simp only [Except.toOption, List.map_cons, (h row List.mem_cons_self).label_eq hread]
          exact hrest.cons_cons _

/-- What is listed of an open table is unique if its columns are and all documents agree with them. -/
theorem listsUnique_of_agrees (now : Instant) {t : Rows} (hopen : t.closed = false)
    (hcolumns : Apart (t.rows.map Row.label)) (h : ∀ row ∈ t.rows, Agrees row) :
    ListsUnique now t := by
  intro cursor limit page hpage
  rw [Catalog.call_list (show Catalog.IsOpen t from hopen)] at hpage
  have hsub := items_sublist hpage
  have hshelf : shelf (Catalog.selected t {}) = t.rows.filterMap fun row => row.record?.toOption := by
    show List.filterMap _ (((sequenced t.rows).filter fun _ => true).map _) = _
    rw [List.filter_true, List.filterMap_map]
    conv => rhs; rw [← map_snd_sequenced t.rows, List.filterMap_map]
    rfl
  rw [hshelf] at hsub
  exact unique_iff.2 ((hcolumns.sublist (labels_sublist h)).sublist (hsub.map _))

theorem closed_perform (now : Instant) (t : Rows) (w : Write) :
    (w.perform now t).2.closed = t.closed := by
  rcases perform_cases now t w with hsame | ⟨rows', -, hleft⟩
  · rw [hsame]
  · rw [hleft]

end Rows

/-! ### Both stores -/

namespace Write

variable {now : Instant} {ws : List Write}

theorem closed_fill_list (now : Instant) (ws : List Write) : (fill now ({} : Memory) ws).closed = false :=
  fill_of_prefixes (P := fun m : Memory => m.closed = false) (Q := fun _ _ => True) rfl
    (fun m w hm _ => (Memory.closed_perform now m w).trans hm) fun _ _ _ => trivial

theorem closed_fill_table (now : Instant) (ws : List Write) : (fill now ({} : Rows) ws).closed = false :=
  fill_of_prefixes (P := fun t : Rows => t.closed = false) (Q := fun _ _ => True) rfl
    (fun t w ht _ => (Rows.closed_perform now t w).trans ht) fun _ _ _ => trivial

/-- The records of a list stay unique as long as no write intrudes, and no longer. -/
theorem unique_fill_iff : (∀ ws', ws' <+: ws → Unique (fill now ({} : Memory) ws').records) ↔
    ∀ ws' w, ws' ++ [w] <+: ws → ¬Memory.Intrudes (fill now ({} : Memory) ws').records w := by
  constructor
  · intro h ws' w hw
    have hopen := closed_fill_list now ws'
    have hnext := h (ws' ++ [w]) hw
    rw [fill_append_singleton] at hnext
    exact (Memory.unique_perform now hopen (h ws' ((List.prefix_append _ _).trans hw)) w).1 hnext
  · intro h ws' hprefix
    refine (fill_of_prefixes (P := fun m : Memory => m.closed = false ∧ Unique m.records)
      (Q := fun m w => ¬Memory.Intrudes m.records w) ⟨rfl, ?_⟩ ?_ fun ws₁ w hw =>
        h ws₁ w (hw.trans hprefix)).2
    · exact unique_iff.2 List.Pairwise.nil
    · intro m w hm hw
      exact ⟨(Memory.closed_perform now m w).trans hm.1, (Memory.unique_perform now hm.1 hm.2 w).2 hw⟩

/-- **When listings stay unique over any writes.**  Those of a list do so exactly as long as no update
and no demotion puts a record beside another one that it clashes with.  The columns of a table are unique
whatever is written, and so are its listings as long as demotions are truthful. -/
theorem unique_listings (now : Instant) (ws : List Write) :
    ((∀ ws', ws' <+: ws → ListsUnique now (fill now ({} : Memory) ws')) ↔
      ∀ ws' w, ws' ++ [w] <+: ws → ¬Memory.Intrudes (fill now ({} : Memory) ws').records w) ∧
    Apart ((fill now ({} : Rows) ws).rows.map Row.label) ∧
    ((∀ ws' w, ws' ++ [w] <+: ws → Rows.Truthful (fill now ({} : Rows) ws').rows w) →
      ∀ ws', ws' <+: ws → ListsUnique now (fill now ({} : Rows) ws')) := by
  refine ⟨?_, ?_, ?_⟩
  · simp only [Memory.listsUnique_iff now (closed_fill_list now _)]
    exact unique_fill_iff
  · exact fill_of_prefixes (s := ({} : Rows)) (P := fun t : Rows => Apart (t.rows.map Row.label))
      (Q := fun _ _ => True) List.Pairwise.nil (fun t w ht _ => Rows.apart_perform now ht w)
      fun _ _ _ => trivial
  · intro h ws' hprefix
    have hkept : Apart ((fill now ({} : Rows) ws').rows.map Row.label) ∧
        ∀ row ∈ (fill now ({} : Rows) ws').rows, Rows.Agrees row :=
      fill_of_prefixes (s := ({} : Rows))
        (P := fun t : Rows => Apart (t.rows.map Row.label) ∧ ∀ row ∈ t.rows, Rows.Agrees row)
        (Q := fun t w => Rows.Truthful t.rows w)
        ⟨List.Pairwise.nil, fun _ hrow => by cases hrow⟩
        (fun t w ht hw => ⟨Rows.apart_perform now ht.1 w, Rows.agrees_perform now ht.2 hw⟩)
        fun ws₁ w hw => h ws₁ w (hw.trans hprefix)
    exact Rows.listsUnique_of_agrees now (closed_fill_table now ws') hkept.1 hkept.2

/-- The version that follows the first one. -/
def second : Record where
  manifest := { name := "a/b", version := "2.0.0" }
  registration := .new ⟨1⟩ .epoch true

/-- Two versions, the first of which is demoted as is due. -/
def succession : List Write := [.create first, .commit second (some (first.demoted .epoch))]

/-- Such writes go through, and both stores list unique records. -/
theorem unique_listings_succession :
    ListsUnique .epoch (fill .epoch ({} : Memory) succession) ∧
      ListsUnique .epoch (fill .epoch ({} : Rows) succession) ∧
      Store.size (fill .epoch ({} : Memory) succession) = 2 ∧
      Store.size (fill .epoch ({} : Rows) succession) = 2 := by
  obtain ⟨hlist, -, htable⟩ := unique_listings .epoch succession
  refine ⟨hlist.2 ?_ _ List.prefix_rfl, htable ?_ _ List.prefix_rfl, rfl, rfl⟩
  · intro ws' w hw
    rcases ws' with _ | ⟨a, _ | ⟨b, ws'⟩⟩ <;>
      simp only [succession, List.nil_append, List.cons_append, List.cons_prefix_cons,
        List.prefix_nil, reduceCtorEq, and_true, and_false, List.append_eq_nil_iff] at hw
    · rw [hw.1]
      exact id
    · obtain ⟨rfl, rfl, -⟩ := hw
      rintro ⟨rs', i, -, hplace, r, hr, -⟩
      obtain rfl : 0 = i := Option.some_inj.1 hplace
      cases hr
  · intro ws' w hw
    rcases ws' with _ | ⟨a, _ | ⟨b, ws'⟩⟩ <;>
      simp only [succession, List.nil_append, List.cons_append, List.cons_prefix_cons,
        List.prefix_nil, reduceCtorEq, and_true, and_false, List.append_eq_nil_iff] at hw
    · rw [hw.1]
      trivial
    · obtain ⟨rfl, rfl, -⟩ := hw
      intro rows' _
      refine ⟨rfl, fun row hrow _ => ?_⟩
      rw [List.mem_singleton.1 (show row ∈ [Row.ofRecord first] from hrow)]
      rfl

/-- An update flags a version beside the one that is flagged. -/
def reflagged : List Write :=
  [.create first, .create (second.demoted .epoch), .update ⟨1⟩ second]

/-- A commit demotes the first version to a document that still has the flag. -/
def misdemoted : List Write := [.create first, .commit second (some first)]

/-- **Both stores may list two flagged records of one name.** -/
theorem exists_repeated_latest :
    (∃ page, (Store.call (.list {} none 2) .epoch (fill .epoch ({} : Memory) reflagged)).1 = .ok page ∧
      ¬Unique page.items) ∧
    ∃ page, (Store.call (.list {} none 2) .epoch (fill .epoch ({} : Rows) misdemoted)).1 = .ok page ∧
      ¬Unique page.items := by
  have htwo : ∀ r s : Record, r.label = first.label → s.label = second.label → ¬Unique [r, s] := by
    intro r s hr hs h
    have hapart := unique_iff.1 h
    rw [List.map_cons, List.map_singleton, hr, hs] at hapart
    exact (List.pairwise_cons.1 hapart).1 _ List.mem_cons_self ⟨rfl, .inr ⟨rfl, rfl⟩⟩
  refine ⟨⟨_, rfl, htwo first second rfl rfl⟩, ?_⟩
  have hread : ∀ (row : Row) (r : Record), row.document = r.text → r.bag = [] →
      row.record? = .ok { r.settled with bag := [], publishedBy := row.publishedBy } := by
    intro row r hdoc hbag
    rw [Row.record?_of_document hdoc, hbag]
    rfl
  have hlist : ∀ (a b : Row) (x y : Record), a.record? = .ok x → b.record? = .ok y →
      (Store.call (.list {} none 2) .epoch (⟨[a, b], false⟩ : Rows)).1 =
        .ok (Page.ofSequenced [(1, x), (2, y)] 2) := by
    intro a b x y ha hb
    have hselect : Rows.select [a, b] {} none 2 = [(1, a), (2, b)] := rfl
    show Rows.list ⟨[a, b], false⟩ {} none 2 = _
    simp only [Rows.list, Page.start?, hselect, Rows.readRows, Row.shownBy_of_remoteUrl, ha, hb,
      Bool.false_eq_true, if_false, bind, Except.bind]
  have hcommitted : Rows.committed [Row.ofRecord first] second (some first) =
      .ok [Rows.demoteRow first (Row.ofRecord first), Row.ofRecord second] := rfl
  have hfill : fill .epoch ({} : Rows) misdemoted =
      ⟨[Rows.demoteRow first (Row.ofRecord first), Row.ofRecord second], false⟩ := by
    show (Rows.write _ second (Rows.committed [Row.ofRecord first] second (some first))).2 = _
    rw [hcommitted]
    rfl
  rw [hfill, hlist _ _ _ _ (hread (Rows.demoteRow first (Row.ofRecord first)) first rfl rfl)
    (hread (Row.ofRecord second) second rfl rfl)]
  exact ⟨_, rfl, htwo _ _ rfl rfl⟩

end Write

end Storage

end ManifestRegistry
