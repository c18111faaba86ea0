/-
**All versions of a server.**

Who asks for the versions of a server is shown those that are stored, in the order in which they came, or is
told that there are none.  They are read page by page, and the reading ends at the ceiling that is set for
new versions.  More versions than that may be stored: the ceiling may have been lowered since, and only a
publish asks for it.  Then the versions behind the ceiling are left out, and nothing tells so; the latest one
may be among them.

Main definitions:

* `Registry.Complete` — **an answer that shows all versions of a name**.

Main results:

* `Registry.versions_of_gathers` — what is shown: the first versions, up to the ceiling;
* `Registry.versions_complete_iff` — **when all versions are shown**, for lists and for tables;
* `Registry.exists_shortened` — an answer without the latest version.
-/

import ManifestRegistry.Proofs.Registry.Alike
import ManifestRegistry.Proofs.Service.Collecting
import Mathlib.Data.List.TakeDrop

set_option relaxedAutoImplicit false
set_option autoImplicit false

namespace ManifestRegistry

namespace Registry

open Service Storage

/-- **An answer that shows all versions of a name**, or tells exactly if there are none. -/
structure Complete (name : String) (all : List Record) (answer : Outcome (List Record)) : Prop where
  shown : all ≠ [] → answer = .ok all
  missing_iff : answer = failed (.notFound ("server '" ++ name ++ "'")) ↔ all = []

/-- The first versions are all of them if they are not too many. -/
theorem complete_named_take (name : String) (all : List Record) {ceiling : Nat} (h : 0 < ceiling) :
    Complete name all (named name (.ok (all.take ceiling))) ↔ all.length ≤ ceiling := by
  cases all with
  | nil =>
      rw [List.take_nil]
      exact iff_of_true ⟨fun hsome => absurd rfl hsome, iff_of_true rfl rfl⟩ (Nat.zero_le _)
  | cons x xs =>
      obtain ⟨n, rfl⟩ : ∃ n, ceiling = n + 1 := Nat.exists_eq_add_one.2 h
      have hnamed : named name (.ok ((x :: xs).take (n + 1))) = .ok ((x :: xs).take (n + 1)) := rfl
      rw [hnamed, ← List.take_eq_self_iff]
      constructor
      · exact fun hall => Except.ok.inj (hall.shown (List.cons_ne_nil _ _))
      · intro hall
        rw [hall]
        exact ⟨fun _ => rfl, iff_of_false (fun hfail => nomatch hfail) (List.cons_ne_nil _ _)⟩

/-- Who finds the store closed is told neither. -/
theorem not_complete_refused (name : String) (all : List Record) :
    ¬Complete name all (ofReply refuseClosed) := by
  intro h
  by_cases hall : all = []
  · exact nomatch h.missing_iff.2 hall
  · exact nomatch h.shown hall

section

variable {σ : Type} [Store σ] {r : Registry σ} {name : String}

/-- **What is shown are the first versions, up to the ceiling.** -/
theorem versions_of_gathers {closed : Bool} {all : List Record}
    (h : Collect.Gathers r.store closed { name := some name } all)
    (hfew : all.length ≤ Store.size r.store) (moment : Moment) :
    r.versions moment name = (named name (if closed then ofReply refuseClosed else
      .ok (all.take (max r.config.maxVersions 1))), r) := by
  have hrun : Collect.machine.run (r.call moment.now) moment (Collect.rounds (Store.size r.store))
      (.running (Publish.lookup r.config name)) r.store =
        (some (if closed then refuseClosed else .ok (all.take (max r.config.maxVersions 1))), r.store) := by
    refine (Machine.run_eq_runAt _ r.call moment _ _ _ _).trans (h _ _ (fun _ => moment) _ ?_)
    exact Nat.lt_succ_of_le (Nat.le_trans (Nat.div_le_self _ _) hfew)
  have hsize : PacedStore.size r.store = Store.size r.store := rfl
  unfold Registry.versions
  simp only [hsize, hrun]
  cases closed <;> rfl

/-- All versions are shown, exactly if the store is open and they are not too many. -/
theorem complete_versions_iff {closed : Bool} {all : List Record}
    (h : Collect.Gathers r.store closed { name := some name } all)
    (hfew : all.length ≤ Store.size r.store) (moment : Moment) :
    Complete name all (r.versions moment name).1 ↔
      closed = false ∧ all.length ≤ max r.config.maxVersions 1 := by
  rw [versions_of_gathers h hfew]
  cases closed with
  | true => exact iff_of_false (not_complete_refused name all) fun hboth => nomatch hboth.1
  | false =>
      rw [if_neg Bool.false_ne_true,
        complete_named_take name all (Nat.lt_of_lt_of_le Nat.one_pos (Nat.le_max_right _ 1))]
      exact (and_iff_right rfl).symm

end

/-- All versions of a name in a table that can be read are shown, exactly if it is open and they are not too
many. -/
theorem complete_rows_iff {r : Registry Rows} (hfew : r.store.rows.length ≤ Cursor.limit) {name : String}
    {all : List Record}
    (hread : (r.store.rows.filter fun row => row.name = name).map Row.record? = all.map .ok)
    (moment : Moment) : Complete name all (r.versions moment name).1 ↔ r.store.closed = false ∧
      r.store.rows.countP (fun row => row.name = name) ≤ max r.config.maxVersions 1 := by
  have hcount : all.length = r.store.rows.countP fun row => row.name = name := by
    have hlen := congrArg List.length hread
    rw [List.length_map, List.length_map] at hlen
    rw [List.countP_eq_length_filter, hlen]
  rw [complete_versions_iff (Collect.gathers_rows hfew (Rows.lists_name_iff.2 hread))
    (hcount ▸ List.countP_le_length), hcount]

/-- **When all versions are shown**: exactly if the store is open, those of a table can be read, and there
are no more of them than the ceiling says, which counts as one at least.  The versions of a table are those
of the rows of the name; if the columns have the names of the records, they are the records of the name. -/
theorem versions_complete_iff (moment : Moment) (name : String) :
    (∀ r : Registry Memory, r.store.records.length ≤ Cursor.limit →
      (Complete name (r.store.records.filter fun x => x.name = name) (r.versions moment name).1 ↔
        r.store.closed = false ∧
          r.store.records.countP (fun x => x.name = name) ≤ max r.config.maxVersions 1)) ∧
    (∀ r : Registry Rows, r.store.rows.length ≤ Cursor.limit →
      ((∃ all, (r.store.rows.filter fun row => row.name = name).map Row.record? = all.map .ok ∧
          Complete name all (r.versions moment name).1) ↔
        r.store.closed = false ∧ (∀ row ∈ r.store.rows, row.name = name → ∃ x, row.record? = .ok x) ∧
          r.store.rows.countP (fun row => row.name = name) ≤ max r.config.maxVersions 1)) ∧
    ∀ (t : Rows) (stored : List Record), t.rows.map Row.record? = stored.map .ok →
      (∀ row ∈ t.rows, ∀ x, row.record? = .ok x → x.name = row.name) →
      (t.rows.filter fun row => row.name = name).map Row.record? =
        (stored.filter fun x => x.name = name).map .ok := by
  refine ⟨fun r hfew => ?_, fun r hfew => ?_, fun t stored hread hnames => ?_⟩
  · rw [complete_versions_iff (Collect.gathers_memory hfew (r.store.lists_name name))
      (List.length_filter_le _ _), List.countP_eq_length_filter]
  · have hreadable : (∃ all : List Record,
        (r.store.rows.filter fun row => row.name = name).map Row.record? = all.map .ok) ↔
          ∀ row ∈ r.store.rows, row.name = name → ∃ x, row.record? = .ok x := by
      simp [Rows.exists_read_iff]
    constructor
    · rintro ⟨all, hread, hall⟩
      obtain ⟨hopen, hle⟩ := (complete_rows_iff hfew hread moment).1 hall
      exact ⟨hopen, hreadable.1 ⟨all, hread⟩, hle⟩
    · rintro ⟨hopen, hrows, hle⟩
      obtain ⟨all, hread⟩ := hreadable.2 hrows
      exact ⟨all, hread, (complete_rows_iff hfew hread moment).2 ⟨hopen, hle⟩⟩
  · exact map_filter_of_map_eq hread fun row hrow x _ hx => by rw [hnames row hrow x hx]

open Rows

/-- A version is added, and then another one that takes the flag from it. -/
def succeeded : List (Instant × Call) :=
  [(.epoch, .create Write.first), (.epoch, .commit Write.second (some (Write.first.demoted .epoch)))]

/-- A registry with room for so many versions of a name. -/
def roomy {σ : Type} (store : σ) (maxVersions : Nat) : Registry σ where
  config := { maxVersions }
  store := store
  events := { room := 1 }

theorem led_succeeded : led ({} : Rows) succeeded =
    ⟨[demoteRow (Write.first.demoted .epoch) (Row.ofRecord Write.first), Row.ofRecord Write.second], false⟩ :=
  fill_succession

theorem few_succeeded : (led ({} : Rows) succeeded).rows.length ≤ Cursor.limit := by
  rw [led_succeeded]
  decide

theorem read_succeeded : (led ({} : Rows) succeeded).rows.map Row.record? =
    [Write.first.demoted .epoch, Write.second].map .ok := by
  rw [led_succeeded, List.map_cons, List.map_singleton, read_demoteRow rfl, read_second]
  rfl

/-- With room for two versions, both of them are shown. -/
theorem versions_complete_succeeded :
    Complete "a/b" [Write.first.demoted .epoch, Write.second]
      ((roomy (led ({} : Memory) succeeded) 2).versions ⟨.epoch, ⟨2⟩⟩ "a/b").1 ∧
    (∃ all, ((led ({} : Rows) succeeded).rows.filter fun row => row.name = "a/b").map Row.record? =
        all.map .ok ∧
      Complete "a/b" all ((roomy (led ({} : Rows) succeeded) 2).versions ⟨.epoch, ⟨2⟩⟩ "a/b").1) ∧
    ((led ({} : Rows) succeeded).rows.filter fun row => row.name = "a/b").map Row.record? =
      [Write.first.demoted .epoch, Write.second].map .ok := by
  have hrows : ∀ row ∈ (led ({} : Rows) succeeded).rows, row.name = "a/b" ∧ ∃ x, row.record? = .ok x ∧
      x.name = "a/b" := by
    rw [led_succeeded]
    intro row hrow
    rcases List.mem_pair.1 hrow with rfl | rfl
    · exact ⟨rfl, _, read_demoteRow rfl, rfl⟩
    · exact ⟨rfl, _, read_second, rfl⟩
  refine ⟨((versions_complete_iff ⟨.epoch, ⟨2⟩⟩ "a/b").1 (roomy (led ({} : Memory) succeeded) 2)
      (by decide)).2 ⟨rfl, by decide⟩,
    ((versions_complete_iff ⟨.epoch, ⟨2⟩⟩ "a/b").2.1 (roomy (led ({} : Rows) succeeded) 2) ?_).2
      ⟨rfl, fun row hrow _ => (hrows row hrow).2.imp fun _ h => h.1, ?_⟩,
    (versions_complete_iff ⟨.epoch, ⟨2⟩⟩ "a/b").2.2 (led ({} : Rows) succeeded)
      [Write.first.demoted .epoch, Write.second] read_succeeded ?_⟩
  · exact few_succeeded
  · rw [roomy, led_succeeded]
    decide
  · intro row hrow x hx
    obtain ⟨hname, y, hy, hyname⟩ := hrows row hrow
    obtain rfl := Except.ok.inj (hx.symm.trans hy)
    rw [hname, hyname]

/-- **The latest version is left out** by a registry with room for one version only, although it is stored
beside the other one. -/
theorem exists_shortened :
    ((led ({} : Memory) succeeded).records.filter fun x => x.name = "a/b") =
      [Write.first.demoted .epoch, Write.second] ∧
    ((roomy (led ({} : Memory) succeeded) 1).versions ⟨.epoch, ⟨2⟩⟩ "a/b").1 =
      .ok [Write.first.demoted .epoch] ∧
    ((led ({} : Rows) succeeded).rows.filter fun row => row.name = "a/b").map Row.record? =
      [Write.first.demoted .epoch, Write.second].map .ok ∧
    ((roomy (led ({} : Rows) succeeded) 1).versions ⟨.epoch, ⟨2⟩⟩ "a/b").1 =
      .ok [Write.first.demoted .epoch] ∧
    ¬Complete "a/b" [Write.first.demoted .epoch, Write.second] (.ok [Write.first.demoted .epoch]) := by
  refine ⟨rfl, ?_, read_succeeded, ?_, fun h => ?_⟩
  · have hgathers := Collect.gathers_memory (m := led {} succeeded) (by decide)
      (Memory.lists_name _ "a/b")
    exact congrArg Prod.fst (versions_of_gathers (r := roomy _ 1) hgathers (by decide) _)
  · have hlists : Catalog.Lists (led ({} : Rows) succeeded) { name := some "a/b" }
        [Write.first.demoted .epoch, Write.second] := Rows.lists_name_iff.2 read_succeeded
    have hgathers := Collect.gathers_rows few_succeeded hlists
    exact congrArg Prod.fst (versions_of_gathers (r := roomy _ 1) hgathers (Nat.le_refl 2) _)
  · cases h.shown (List.cons_ne_nil _ _)

end Registry

end ManifestRegistry
