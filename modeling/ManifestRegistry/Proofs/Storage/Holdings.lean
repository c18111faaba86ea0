/-
**What a store has to list.**

Whoever reads all pages of a listing has to know what there is to be read.  A list has the records that
the filter selects.  A table has the rows whose columns say so, and shows what it reads in their documents;
as long as the columns are those of the records, these are the records that the filter selects.  URLs have
no columns, so what a table lists under a URL is told by its documents alone.

Main definitions:

* `Storage.Catalog.Lists` — **what a filter selects of a store can all be read**, as some records;
* `Storage.Rows.Documented` — a table whose documents are those of records;
* `Storage.led` — a store after some calls.

Main results:

* `Storage.Memory.lists` — a list has the records that a filter selects;
* `Storage.Rows.lists_of_follows` — so has a table whose columns are those of the records;
* `Storage.Rows.documented_led` — **calls write nothing but documents of records**;
* `Storage.Rows.lists_remoteUrl` — what such a table lists under a URL.
-/

import ManifestRegistry.Proofs.Storage.Candid
import ManifestRegistry.Proofs.Storage.Selecting
import Mathlib.Data.Set.List

set_option relaxedAutoImplicit false
set_option autoImplicit false

namespace ManifestRegistry

namespace Storage

/-! ### Stores that can be read -/

namespace Catalog

variable {σ : Type} [Store σ] [Catalog σ] {s : σ} {filter : Filter} {rs : List Record}

/-- What a filter selects of a store can all be read: these records, in their order. -/
def Lists (s : σ) (filter : Filter) (rs : List Record) : Prop :=
  (selected s filter).map Prod.snd = rs.map .ok

/-- The entries of such a listing are those of numbered records. -/
theorem Lists.exists_shown (h : Lists s filter rs) : ∃ as : List (Nat × Record),
    selected s filter = as.map Entry.shown ∧ as.map Prod.snd = rs := by
  unfold Lists at h
  generalize selected s filter = es at h
  induction es generalizing rs with
  | nil =>
      obtain rfl := List.map_eq_nil_iff.1 h.symm
      exact ⟨[], rfl, rfl⟩
  | cons e es ih =>
      cases rs with
      | nil => cases h
      | cons r rs =>
          obtain ⟨hread, hrest⟩ := List.cons.inj h
          obtain ⟨as, rfl, rfl⟩ := ih hrest
          exact ⟨(e.1, r) :: as, congrArg (· :: _) (Prod.ext rfl hread), rfl⟩

end Catalog

/-- **A list has the records that a filter selects.** -/
theorem Memory.lists (m : Memory) (filter : Filter) :
    Catalog.Lists m filter (m.records.filter filter.selects) := by
  show (((sequenced m.records).filter fun a => filter.selects a.2).map Entry.shown).map Prod.snd = _
  rw [← map_snd_filter_sequenced, List.map_map, List.map_map]
  rfl

namespace Rows

variable {t : Rows} {filter : Filter} {stored : List Record}

theorem lists_iff {rs : List Record} : Catalog.Lists t filter rs ↔
    (t.rows.filter fun row => row.selectedBy filter).map (Row.shownBy filter) = rs.map .ok := by
  have hselected : (Catalog.selected t filter).map Prod.snd =
      (t.rows.filter fun row => row.selectedBy filter).map (Row.shownBy filter) := by
    show (((sequenced t.rows).filter fun a => a.2.selectedBy filter).map
      fun a => (a.1, a.2.shownBy filter)).map Prod.snd = _
    conv => rhs; rw [← map_snd_sequenced t.rows]
    rw [List.filter_map, List.map_map, List.map_map]
    rfl
  rw [Catalog.Lists, hselected]

theorem exists_read_iff {rows : List Row} : (∃ xs : List Record, rows.map Row.record? = xs.map .ok) ↔
    ∀ row ∈ rows, ∃ x, row.record? = .ok x := by
  have h := Set.ext_iff.1 (Set.range_list_map (Except.ok : Record → Except StorageError Record))
    (rows.map Row.record?)
  simp only [Set.mem_range, Set.mem_ofPred_eq, List.forall_mem_map] at h
  simpa only [eq_comm] using h

theorem lists_name_iff {name : String} {rs : List Record} : Catalog.Lists t { name := some name } rs ↔
    (t.rows.filter fun row => row.name = name).map Row.record? = rs.map .ok := by
  rw [lists_iff]
  simp only [selectedBy_name]
  rfl

/-- A table of which all rows can be read lists those records of which a filter selects the rows. -/
theorem lists_of_read (hread : t.rows.map Row.record? = stored.map .ok)
    (hdoc : ∀ row ∈ t.rows, ∃ r : Record, row.document = r.text) {test : Record → Bool}
    (hselect : ∀ row ∈ t.rows, ∀ x, row.record? = .ok x → row.selectedBy filter = test x) :
    Catalog.Lists t filter (stored.filter test) := by
  have hshown : ∀ row ∈ t.rows, row.shownBy filter = row.record? := by
    intro row hrow
    obtain ⟨r, hr⟩ := hdoc row hrow
    obtain ⟨x, hx⟩ := exists_read_iff.1 ⟨stored, hread⟩ row hrow
    rw [Row.shownBy_of_read hr hx, hx]
  refine lists_iff.2 (map_filter_of_map_eq ((List.map_congr_left hshown).trans hread) ?_)
  intro row hrow x _ hx
  exact hselect row hrow x ((hshown row hrow).symm.trans hx)

/-- **A table whose columns are those of records lists the records that a filter selects.** -/
theorem lists_of_follows (hread : t.rows.map Row.record? = stored.map .ok)
    (hfollows : ∀ row ∈ t.rows, ∃ r, row.Follows r ∧ row.name = r.name)
    (hera : ∀ x ∈ stored, x.updatedAt.InEra)
    (hf : ∀ since, filter.updatedSince = some since → since.IsReading ∧ since.InEra) :
    Catalog.Lists t filter (stored.filter filter.selects) := by
  refine lists_of_read hread (fun row hrow => ?_) fun row hrow x hx => ?_
  · obtain ⟨r, hr, -⟩ := hfollows row hrow
    exact ⟨r, hr.document⟩
  obtain ⟨r, hr, hname⟩ := hfollows row hrow
  have hstored : x ∈ stored := by
    have hmem : row.record? ∈ stored.map Except.ok := hread ▸ List.mem_map_of_mem hrow
    obtain ⟨y, hy, he⟩ := List.mem_map.1 hmem
    exact Except.ok.inj (he.trans hx) ▸ hy
  refine Row.selectedBy_of_read hr hx ?_ (hera x hstored) hf
  rw [hname, Record.name, Record.name, (Row.read_eq hr.document hx).1]

/-! ### Documents of records -/

/-- A table whose documents are those of records, whatever its columns are. -/
def Documented (t : Rows) : Prop := ∀ row ∈ t.rows, ∃ r : Record, row.document = r.text

theorem Documented.perform (h : Documented t) (now : Instant) (w : Write) :
    Documented (w.perform now t).2 := by
  refine forall_perform now h fun rows' _ row hcame => ?_
  cases hcame with
  | added record => exact ⟨record, rfl⟩
  | kept hold => exact h row hold
  | revised | demoted => exact ⟨_, rfl⟩

theorem Documented.call (h : Documented t) (c : Call) (now : Instant) :
    Documented (Store.call c now t).2 := by
  cases c with
  | list | getById | getVersion | countRecent | close => exact h
  | create record => exact h.perform now (.create record)
  | update id record => exact h.perform now (.update id record)
  | commit record demote => exact h.perform now (.commit record demote)

end Rows

/-- A store after some calls, each at its own time. -/
def led {σ : Type} [Store σ] (s : σ) (calls : List (Instant × Call)) : σ :=
  calls.foldl (fun s c => (Store.call c.2 c.1 s).2) s

namespace Rows

variable {t : Rows} {stored : List Record}

/-- **Calls write nothing but documents of records.** -/
theorem documented_led (calls : List (Instant × Call)) : Documented (led ({} : Rows) calls) := by
  suffices h : ∀ t : Rows, Documented t → Documented (led t calls) from
    h {} fun _ hrow => absurd hrow List.not_mem_nil
  induction calls with
  | nil => exact fun t ht => ht
  | cons c calls ih => exact fun t ht => ih _ (ht.call c.2 c.1)

/-- **What a table lists under a URL** are the records that it reads with the URL. -/
theorem lists_remoteUrl (hread : t.rows.map Row.record? = stored.map .ok) (hdoc : Documented t)
    (url : String) : Catalog.Lists t { remoteUrl := some url }
      (stored.filter fun r => r.manifest.remoteUrls.contains url) := by
  refine lists_of_read hread hdoc fun row hrow x hx => ?_
  obtain ⟨r, hr⟩ := hdoc row hrow
  rw [Row.selectedBy_remoteUrl, Row.isTangled_of_read hr hx, Bool.false_or, hr, Row.documentUrls_text,
    (Row.read_eq hr hx).1]

end Rows

theorem Memory.lists_name (m : Memory) (name : String) :
    Catalog.Lists m { name := some name } (m.records.filter fun r => r.name = name) := by
  have hselects : ({ name := some name } : Filter).selects = fun r => decide (r.name = name) :=
    funext (selects_name name)
  exact hselects ▸ m.lists { name := some name }

/-- What a list has under a URL are the records with the URL. -/
theorem Memory.lists_remoteUrl (m : Memory) (url : String) : Catalog.Lists m { remoteUrl := some url }
    (m.records.filter fun r => r.manifest.remoteUrls.contains url) := by
  have hselects : ({ remoteUrl := some url } : Filter).selects =
      fun r => r.manifest.remoteUrls.contains url := funext (selects_remoteUrl url)
  exact hselects ▸ m.lists { remoteUrl := some url }

end Storage

end ManifestRegistry
