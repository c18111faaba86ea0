/-
**What a listing shows.**

Whatever a store keeps, an open one answers a listing from numbered entries in ascending order: those
that the filter selects, each with the record that is read of it or with the reason why none can be
read.  A page holds the first entries behind the cursor, and one of them that cannot be read spoils all
of it.  How pages follow each other is proved here once for all stores of this kind.

Main definitions:

* `Storage.Entry`, `Storage.Entry.shown` — numbered entries; those that can be read;
* `Storage.listing` — **the page of some entries behind a cursor**;
* `Storage.Catalog` — a store that answers from numbered entries.

Main results:

* `Storage.listing_eq_ok` — when there is a page, and what is on it;
* `Storage.listing_after` — the page behind what was read is the beginning of the rest;
* `Storage.turned_shown` — it names the place behind it or is the last one;
* the list store and the table are catalogs.
-/

import ManifestRegistry.Proofs.Paging.Pages
import ManifestRegistry.Storage.Rows
import Mathlib.Data.List.Forall2

set_option relaxedAutoImplicit false
set_option autoImplicit false

namespace ManifestRegistry

namespace Storage

/-! ### Entries -/

/-- A numbered entry: what is read of it, or why it cannot be read. -/
abbrev Entry := Nat × Except StorageError Record

/-- The entry of a numbered record that can be read. -/
def Entry.shown (a : Nat × Record) : Entry := (a.1, .ok a.2)

/-- The records of entries, all of them or none. -/
def readAll : List Entry → Except StorageError (List (Nat × Record))
  | [] => .ok []
  | (n, read) :: rest => do
    let r ← read
    let rs ← readAll rest
    .ok ((n, r) :: rs)

/-- What stands on the right of related lists is related to something on the left. -/
theorem exists_of_forall₂ {α β : Type} {R : α → β → Prop} {as : List α} {bs : List β}
    (h : List.Forall₂ R as bs) {b : β} (hb : b ∈ bs) : ∃ a ∈ as, R a b := by
  induction h with
  | nil => cases hb
  | cons hR _ ih =>
      rcases List.mem_cons.1 hb with rfl | hb
      · exact ⟨_, List.mem_cons_self, hR⟩
      · obtain ⟨a, ha, hR⟩ := ih hb
        exact ⟨a, List.mem_cons_of_mem _ ha, hR⟩

theorem readAll_eq_ok {es : List Entry} {as : List (Nat × Record)} :
    readAll es = .ok as ↔ es = as.map Entry.shown := by
  induction es generalizing as with
  | nil => cases as <;> simp [readAll]
  | cons e es ih =>
      obtain ⟨n, read⟩ := e
      cases read with
      | error e =>
          have hno : readAll ((n, .error e) :: es) = .error e := rfl
          cases as <;> simp [hno, Entry.shown]
      | ok r =>
          have hread : readAll ((n, .ok r) :: es) = (readAll es).map ((n, r) :: ·) := by
            cases h : readAll es <;> simp [readAll, h, bind, Except.bind, Except.map]
          constructor
          · intro h
            rw [hread] at h
            cases hrest : readAll es with
            | error e =>
                rw [hrest] at h
                cases h
            | ok bs =>
                rw [hrest] at h
                obtain rfl := Except.ok.inj h
                rw [ih.1 hrest]
                rfl
          · intro h
            cases as with
            | nil => cases h
            | cons a as =>
                obtain ⟨hhead, htail⟩ := List.cons.inj h
                obtain ⟨rfl, hr⟩ := Prod.mk.inj hhead
                obtain rfl := Except.ok.inj hr
                rw [hread, ih.2 htail]
                rfl

theorem mem_of_readAll_eq_error {es : List Entry} {e : StorageError} (h : readAll es = .error e) :
    ∃ n, (n, .error e) ∈ es := by
  induction es with
  | nil => cases h
  | cons head es ih =>
      obtain ⟨n, read⟩ := head
      cases read with
      | error e' =>
          obtain rfl : e' = e := Except.error.inj h
          exact ⟨n, List.mem_cons_self⟩
      | ok r =>
          cases hrest : readAll es with
          | error e' =>
              simp only [readAll, hrest, bind, Except.bind] at h
              obtain rfl := Except.error.inj h
              obtain ⟨k, hk⟩ := ih hrest
              exact ⟨k, List.mem_cons_of_mem _ hk⟩
          | ok as =>
              simp only [readAll, hrest, bind, Except.bind] at h
              cases h

/-! ### Pages -/

/-- The page of some entries behind a cursor. -/
def listing (es : List Entry) (cursor : Option String) (limit : Nat) : Reply (Page Record) :=
  match Page.start? cursor with
  | .error e => refuse e
  | .ok start =>
    match readAll ((es.filter fun e => Page.isBehind start e.1).take limit) with
    | .ok as => .ok (Page.ofSequenced as limit)
    | .error e => refuse e

variable {es done rest : List Entry} {limit : Nat}

/-- **When there is a page, and what is on it**: the cursor is read, and so is each of the first entries
behind it. -/
theorem listing_eq_ok {cursor : Option String} {page : Page Record} :
    listing es cursor limit = .ok page ↔ ∃ start as, Page.start? cursor = .ok start ∧
      (es.filter fun e => Page.isBehind start e.1).take limit = as.map Entry.shown ∧
      page = Page.ofSequenced as limit := by
  unfold listing
  cases hstart : Page.start? cursor with
  | error e => simp [refuse]
  | ok start =>
      constructor
      · intro h
        simp only at h
        cases hread : readAll ((es.filter fun e => Page.isBehind start e.1).take limit) with
        | error e =>
            rw [hread] at h
            cases h
        | ok as =>
            rw [hread] at h
            exact ⟨start, as, rfl, readAll_eq_ok.1 hread, (Except.ok.inj h).symm⟩
      · rintro ⟨start', as, hs, htake, rfl⟩
        obtain rfl := Except.ok.inj hs
        simp only [readAll_eq_ok.2 htake]

theorem mem_of_mem_listing {cursor : Option String} {page : Page Record}
    (h : listing es cursor limit = .ok page) {x : Record} (hx : x ∈ page.items) :
    ∃ n, (n, .ok x) ∈ es := by
  obtain ⟨start, as, -, htake, rfl⟩ := listing_eq_ok.1 h
  rw [Page.items_ofSequenced] at hx
  obtain ⟨a, ha, rfl⟩ := List.mem_map.1 hx
  have hshown : Entry.shown a ∈ (es.filter fun e => Page.isBehind start e.1).take limit :=
    htake ▸ List.mem_map_of_mem ha
  exact ⟨a.1, (List.mem_filter.1 (List.mem_of_mem_take hshown)).1⟩

theorem listing_eq_error {cursor : Option String} {stop : Stop StorageError}
    (h : listing es cursor limit = .error stop) :
    (∃ e, Page.start? cursor = .error e ∧ stop = .failed e) ∨
      ∃ n e, (n, .error e) ∈ es ∧ stop = .failed e := by
  unfold listing at h
  cases hstart : Page.start? cursor with
  | error e =>
      rw [hstart] at h
      exact .inl ⟨e, rfl, (Except.error.inj h).symm⟩
  | ok start =>
      simp only [hstart] at h
      cases hread : readAll ((es.filter fun e => Page.isBehind start e.1).take limit) with
      | ok as =>
          rw [hread] at h
          cases h
      | error e =>
          rw [hread] at h
          obtain ⟨n, hn⟩ := mem_of_readAll_eq_error hread
          have hmem := (List.mem_filter.1 (List.mem_of_mem_take hn)).1
          exact .inr ⟨n, e, hmem, (Except.error.inj h).symm⟩

/-- **The page behind what was read is the beginning of the rest.** -/
theorem listing_after (hsorted : (done ++ rest).Pairwise fun a b => a.1 < b.1) {page : Page Record}
    (h : listing (done ++ rest) (Page.after done) limit = .ok page) :
    ∃ as, rest.take limit = as.map Entry.shown ∧ page = Page.ofSequenced as limit := by
  obtain ⟨start, as, hstart, htake, hpage⟩ := listing_eq_ok.1 h
  obtain rfl := Page.start?_after hstart
  rw [Page.filter_isBehind hsorted] at htake
  exact ⟨as, htake, hpage⟩

/-- The cursor of a page is told by the numbers of its entries. -/
theorem nextCursor_shown (as : List (Nat × Record)) (limit : Nat) :
    (Page.ofSequenced (as.map Entry.shown) limit).nextCursor =
      (Page.ofSequenced as limit).nextCursor := by
  simp only [Page.ofSequenced, List.length_map, List.getLast?_map, Option.map_map]
  rfl

/-- A page that is full names the place behind it; one that is not is the last one. -/
theorem turned_shown (done : List Entry) (hl : 0 < limit) {as : List (Nat × Record)}
    (has : rest.take limit = as.map Entry.shown) :
    (Page.ofSequenced as limit).nextCursor = none ∧ rest.drop limit = [] ∨
      ∃ cursor, (Page.ofSequenced as limit).nextCursor = some cursor ∧
        cursor = Page.after (done ++ rest.take limit) := by
  rw [← nextCursor_shown, ← has]
  rcases Page.turned done hl with ⟨cursor, hafter, hnext, -⟩ | hlast
  · exact .inr ⟨cursor, hnext, hafter.symm⟩
  · exact .inl hlast

/-! ### Catalogs -/

/-- A store that answers listings from numbered entries. -/
class Catalog (σ : Type) [Store σ] where
  IsOpen : σ → Prop
  /-- The entries that a filter selects. -/
  selected : σ → Filter → List Entry
  ascending (s : σ) (filter : Filter) : (selected s filter).Pairwise fun a b => a.1 < b.1
  /-- What cannot be read is the store's own fault. -/
  unreadable {s : σ} {filter : Filter} {n : Nat} {e : StorageError}
    (h : (n, .error e) ∈ selected s filter) : ∃ reason, e = .backend reason
  call_list {s : σ} (h : IsOpen s) (filter : Filter) (cursor : Option String) (limit : Nat)
    (now : Instant) : Store.call (.list filter cursor limit) now s =
      (listing (selected s filter) cursor limit, s)

namespace Memory

/-- The list store shows the records as they are. -/
instance : Catalog Memory where
  IsOpen m := m.closed = false
  selected m filter := ((sequenced m.records).filter fun a => filter.selects a.2).map Entry.shown
  ascending m filter := List.pairwise_map.2 ((pairwise_sequenced m.records).filter _)
  unreadable h := by
    obtain ⟨a, -, ha⟩ := List.mem_map.1 h
    cases congrArg Prod.snd ha
  call_list {m} h filter cursor limit now := by
    refine Prod.ext ?_ rfl
    show m.list filter cursor limit = _
    unfold list Page.paginate listing
    simp only [h, Bool.false_eq_true, if_false, List.filter_map, ← List.map_take]
    cases Page.start? cursor with
    | error e => rfl
    | ok start =>
        simp only [readAll_eq_ok.2 rfl]
        rfl

end Memory

namespace Rows

/-- What is read of rows is what is read of their entries. -/
theorem readRows_eq (read : Row → Except StorageError Record) (rows : List (Nat × Row)) :
    readRows read rows = readAll (rows.map fun a => (a.1, read a.2)) := by
  induction rows with
  | nil => rfl
  | cons a rows ih => simp only [readRows, readAll, List.map_cons, ih]

/-- A listing fails by the store's own fault at a row that it cannot show. -/
theorem backend_of_shownBy {filter : Filter} {row : Row} {e : StorageError}
    (h : row.shownBy filter = .error e) : ∃ reason, e = .backend reason := by
  unfold Row.shownBy at h
  split at h
  · exact ⟨_, (Except.error.inj h).symm⟩
  · unfold Row.record? at h
    split at h
    · cases h
    · exact ⟨_, (Except.error.inj h).symm⟩

/-- The table shows what it reads in the documents. -/
instance : Catalog Rows where
  IsOpen t := t.closed = false
  selected t filter := ((sequenced t.rows).filter fun a => a.2.selectedBy filter).map
    fun a => (a.1, a.2.shownBy filter)
  ascending t filter := List.pairwise_map.2 ((pairwise_zipIdx t.rows 1).filter _)
  unreadable h := by
    obtain ⟨a, -, ha⟩ := List.mem_map.1 h
    exact backend_of_shownBy (congrArg Prod.snd ha)
  call_list {t} h filter cursor limit now := by
    refine Prod.ext ?_ rfl
    show t.list filter cursor limit = _
    unfold list listing
    cases Page.start? cursor with
    | error e => rfl
    | ok start =>
        have hselect : (((sequenced t.rows).filter fun a => a.2.selectedBy filter).map
            fun a => (a.1, a.2.shownBy filter)).filter (fun e => Page.isBehind start e.1) =
              ((sequenced t.rows).filter fun r =>
                Page.isBehind start r.1 && r.2.selectedBy filter).map
                  fun a => (a.1, a.2.shownBy filter) := by
          rw [List.filter_map, List.filter_filter]
          rfl
        simp only [h, Bool.false_eq_true, if_false, hselect, ← List.map_take, ← readRows_eq]
        rfl

end Rows

end Storage

end ManifestRegistry
