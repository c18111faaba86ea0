/-
**All pages together.**

Reading all pages of a listing puts the first records that are selected together, up to the ceiling, in the
order in which they are stored.  How large the pages are does not matter to what is read, only to how many
calls it takes: one for each full page and one more, which is needed even if nothing is left for it.

Main definitions:

* `Service.Collect.alone` — reading all pages while nobody writes;
* `Service.Collect.Gathers` — **it comes to the first of some records**, whatever the size of the pages is.

Main results:

* `Service.Collect.gathers_of_lists` — a store that has some records to list has them gathered;
* `Service.Collect.gathers_selected` — **of a list, and of a table that can be read, what the filter selects is
  gathered**.
-/

import ManifestRegistry.Proofs.Service.Passing
import ManifestRegistry.Proofs.Storage.Closing

set_option relaxedAutoImplicit false
set_option autoImplicit false

namespace ManifestRegistry

namespace Service

open Storage

namespace Collect

section

variable {σ : Type} [Store σ]

/-- All pages of a store read by somebody who is alone with it, with at most so many calls. -/
def alone (c : Collect) (clock : Nat → Moment) (calls : Nat) (s : σ) :
    Option (Reply (List Record)) × σ :=
  machine.runAt (fun now c s => Store.call c now s) clock calls 0 (.running c) s

/-- **Reading all pages comes to the first of some records**, up to the ceiling, whatever the size of the
pages is, and leaves the store as it is.  A call for each full page and one more are enough.  Of a closed
store nothing is read. -/
def Gathers (s : σ) (closed : Bool) (filter : Filter) (matching : List Record) : Prop :=
  ∀ (pageSize ceiling : Nat) (clock : Nat → Moment) (calls : Nat),
    matching.length / max pageSize 1 < calls →
      (start filter pageSize ceiling).alone clock calls s =
        (some (if closed then refuseClosed else .ok (matching.take ceiling)), s)

theorem gathers_of_refused {s : σ} {filter : Filter} (matching : List Record)
    (h : ∀ now limit, Store.call (.list filter none limit) now s = (refuseClosed, s)) :
    Gathers s true filter matching := by
  intro pageSize ceiling clock calls hcalls
  obtain ⟨spare, rfl⟩ : ∃ n, calls = n + 1 := Nat.exists_eq_add_one.2 (Nat.zero_lt_of_lt hcalls)
  have hstep : machine.step (fun c s => Store.call c (clock 0).now s) (clock 0)
      (start filter pageSize ceiling) s = (.finished refuseClosed, s) :=
    congrArg (fun result => ((start filter pageSize ceiling).receive (clock 0) result.1, result.2))
      (h (clock 0).now (max pageSize 1))
  rw [alone, Machine.runAt, hstep]
  exact Machine.runAt_finished ..

/-- **A store that has some records to list has them gathered.** -/
theorem gathers_of_lists [Catalog σ] {s : σ} (hs : Catalog.Calm s) {filter : Filter}
    {matching : List Record} (h : Catalog.Lists s filter matching) :
    Gathers s false filter matching := by
  intro pageSize ceiling clock calls hcalls
  obtain ⟨as, hlisted, rfl⟩ := h.exists_shown
  rw [List.length_map] at hcalls
  exact runAt_selected (fun _ _ _ => rfl) hs hlisted pageSize ceiling hcalls

end

theorem gathers_memory {m : Memory} (hfew : m.records.length ≤ Cursor.limit) {filter : Filter}
    {matching : List Record} (h : Catalog.Lists m filter matching) :
    Gathers m m.closed filter matching := by
  cases hclosed : m.closed with
  | true => exact gathers_of_refused _ fun now limit => Memory.call_closed hclosed _ now
  | false => exact gathers_of_lists (Memory.calm hclosed hfew) h

theorem gathers_rows {t : Rows} (hfew : t.rows.length ≤ Cursor.limit) {filter : Filter}
    {matching : List Record} (h : Catalog.Lists t filter matching) :
    Gathers t t.closed filter matching := by
  cases hclosed : t.closed with
  | true => exact gathers_of_refused _ fun now limit => Rows.call_list_closed hclosed filter limit now
  | false => exact gathers_of_lists (Rows.calm hclosed hfew) h

/-- **What a filter selects is gathered**, as long as cursors can count what is stored: of a list the records
that it selects, of a table what a listing has of the rows that it selects by their columns.  If the columns
are those of the records, these are again the records that it selects. -/
theorem gathers_selected (filter : Filter) :
    (∀ m : Memory, m.records.length ≤ Cursor.limit →
      Gathers m m.closed filter (m.records.filter filter.selects)) ∧
    (∀ (t : Rows) (matching : List Record), t.rows.length ≤ Cursor.limit →
      (t.rows.filter fun row => row.selectedBy filter).map (Row.shownBy filter) = matching.map .ok →
      Gathers t t.closed filter matching) ∧
    ∀ (t : Rows) (stored : List Record), t.rows.length ≤ Cursor.limit →
      t.rows.map Row.record? = stored.map .ok →
      (∀ row ∈ t.rows, ∃ r, row.Follows r ∧ row.name = r.name) →
      (∀ x ∈ stored, x.updatedAt.InEra) →
      (∀ since, filter.updatedSince = some since → since.IsReading ∧ since.InEra) →
      Gathers t t.closed filter (stored.filter filter.selects) :=
  ⟨fun m hfew => gathers_memory hfew (m.lists filter),
    fun _ _ hfew hread => gathers_rows hfew (Rows.lists_iff.2 hread),
    fun _ _ hfew hread hfollows hera hf =>
      gathers_rows hfew (Rows.lists_of_follows hread hfollows hera hf)⟩

open Write Rows

/-- Two versions of a server: both of them are gathered under their name, and one by its version, which takes
two pages of one record. -/
theorem gathers_selected_pair :
    Gathers ({ records := [first, second] } : Memory) false { name := some "a/b" } [first, second] ∧
    Gathers (⟨[Row.ofRecord first, Row.ofRecord second], false⟩ : Rows) false { name := some "a/b" }
      [first, second] ∧
    ∀ clock, (start { version := some "2.0.0" } 1 5).alone clock 2
        (⟨[Row.ofRecord first, Row.ofRecord second], false⟩ : Rows) =
      (some (.ok [second]), ⟨[Row.ofRecord first, Row.ofRecord second], false⟩) := by
  have hread : [Row.ofRecord first, Row.ofRecord second].map Row.record? =
      [first, second].map Except.ok := by
    rw [List.map_cons, List.map_singleton, read_first, read_second]
    rfl
  refine ⟨(gathers_selected _).1 { records := [first, second] } (by decide),
    (gathers_selected _).2.1 ⟨[Row.ofRecord first, Row.ofRecord second], false⟩ _ (by decide) hread,
    fun clock => (gathers_selected { version := some "2.0.0" }).2.2
      ⟨[Row.ofRecord first, Row.ofRecord second], false⟩ [first, second] (by decide) hread ?_ ?_
      (fun _ h => by cases h) 1 5 clock 2 (by decide)⟩
  · intro row hrow
    rcases List.mem_pair.1 hrow with rfl | rfl
    · exact ⟨first, Row.follows_ofRecord first, rfl⟩
    · exact ⟨second, Row.follows_ofRecord second, rfl⟩
  · intro x hx
    rcases List.mem_pair.1 hx with rfl | rfl <;> decide

end Collect

end Service

end ManifestRegistry
