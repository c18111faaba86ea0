/-
**Walks through records that change meanwhile.**

Whoever follows the cursors of pages reads, at each fetch, the first records that are selected behind the
last one read.  Between two fetches records may be added and stored ones may change, also so that they are
selected no longer or only now, but each keeps its place.  So a walk never comes back to a place, and it
does not pass by one that is selected whenever it fetches.

Main definitions:

* `Page.Fetch` — the records stored at a fetch, those read, and the page;
* `Page.due` — the records that are selected behind a place;
* `Page.Walked` — **fetches each of which goes on behind the one before**;
* `Page.Ended` — fetches of which the last one names no place to go on;
* `Page.Rooted` — fetches between which records keep their places.

Main results:

* `Page.Walked.ascending` — the numbers read ascend over the whole walk;
* `Page.Walked.complete` — **a walk that has ended has read what was selected at each of its fetches**;
* `Page.Walked.nodup_shown`, `Page.Walked.count_shown` — **no version is shown twice**, and one that was
  selected at each fetch is shown once;
* `Page.Walked.still` — how many pages there are of records that nobody changes, and what is on them.
-/

import ManifestRegistry.Proofs.Paging.Pages
import ManifestRegistry.Proofs.Records.Imprint
import Mathlib.Data.List.Nodup

set_option relaxedAutoImplicit false
set_option autoImplicit false

namespace ManifestRegistry

namespace Page

open Storage

/-- A fetch of a page: the records stored then, those read with their numbers, and the page. -/
structure Fetch where
  stored : List Record
  read : List (Nat × Record)
  page : Page Record

/-- The numbered records that are selected behind a place. -/
def due (selects : Record → Bool) (start : Option Nat) (stored : List Record) : List (Nat × Record) :=
  ((Memory.sequenced stored).filter fun a => selects a.2).filter fun a => isBehind start a.1

/-- A fetch behind a place reads the first records that are due, and its page shows these. -/
structure Fetch.Reads (selects : Record → Bool) (size : Nat) (start : Option Nat) (f : Fetch) :
    Prop where
  read : f.read = (due selects start f.stored).take size
  page : f.page = ofSequenced f.read size

/-- Fetches from a place on, each behind what the one before has read, as long as there is a place to go
on. -/
inductive Walked (selects : Record → Bool) (size : Nat) : Option Nat → List Fetch → Prop
  /-- Nobody fetches any more. -/
  | stop (start : Option Nat) : Walked selects size start []
  | last {start : Option Nat} {f : Fetch} (h : f.Reads selects size start)
      (hend : f.page.nextCursor = none) : Walked selects size start [f]
  | next {start : Option Nat} {f : Fetch} {fs : List Fetch} (h : f.Reads selects size start)
      (hmore : f.page.nextCursor.isSome) (rest : Walked selects size (last? f.read) fs) :
      Walked selects size start (f :: fs)

/-- The last fetch names no place to go on. -/
def Ended (fs : List Fetch) : Prop := ∃ f, fs.getLast? = some f ∧ f.page.nextCursor = none

variable {selects : Record → Bool} {size : Nat} {start : Option Nat} {f : Fetch} {fs : List Fetch}
  {stored : List Record}

/-! ### One fetch -/

theorem pairwise_due (selects : Record → Bool) (start : Option Nat) (stored : List Record) :
    (due selects start stored).Pairwise fun a b => a.1 < b.1 :=
  ((Memory.pairwise_sequenced stored).filter _).filter _

/-- At the beginning all records that are selected are due. -/
theorem map_snd_due_none (selects : Record → Bool) (stored : List Record) :
    (due selects none stored).map Prod.snd = stored.filter selects := by
  have hall : due selects none stored = (Memory.sequenced stored).filter fun a => selects a.2 :=
    List.filter_eq_self.2 fun _ _ => rfl
  rw [hall, Memory.map_snd_filter_sequenced]

theorem mem_due {a : Nat × Record} : a ∈ due selects start stored ↔
    a ∈ Memory.sequenced stored ∧ selects a.2 = true ∧ isBehind start a.1 = true := by
  rw [due, List.mem_filter, List.mem_filter, and_assoc]

/-- What is behind the last of some entries is behind the place that these are behind. -/
theorem isBehind_of_last? {as : List (Nat × Record)} (h : ∀ a ∈ as, isBehind start a.1 = true)
    (hne : as ≠ []) {n : Nat} (hn : isBehind (last? as) n = true) : isBehind start n = true := by
  have hlast : last? as = some (as.getLast hne).1 := by
    rw [last?, List.getLast?_eq_some_getLast hne, Option.map_some]
  rw [hlast, isBehind, decide_eq_true_eq] at hn
  have hbehind := h _ (List.getLast_mem hne)
  cases start with
  | none => rfl
  | some k =>
      rw [isBehind, decide_eq_true_eq] at hbehind ⊢
      omega

/-- Of ascending entries those that are not among the first ones are behind the last of these. -/
theorem isBehind_last?_take {as : List (Nat × Record)} (h : as.Pairwise fun a b => a.1 < b.1)
    {a : Nat × Record} (ha : a ∈ as.drop size) : isBehind (last? (as.take size)) a.1 = true := by
  rw [← List.take_append_drop size as] at h
  have hless := (List.pairwise_append.1 h).2.2
  unfold last?
  cases hlast : (as.take size).getLast? with
  | none => rfl
  | some l => exact decide_eq_true (hless l (List.mem_of_getLast? hlast) a ha)

namespace Fetch.Reads

variable (h : f.Reads selects size start)
include h

theorem mem_due {a : Nat × Record} (ha : a ∈ f.read) : a ∈ due selects start f.stored := by
  rw [h.read] at ha
  exact List.mem_of_mem_take ha

theorem isBehind {a : Nat × Record} (ha : a ∈ f.read) : Page.isBehind start a.1 = true :=
  (Page.mem_due.1 (h.mem_due ha)).2.2

theorem length_le : f.read.length ≤ size := by
  rw [h.read, List.length_take]
  exact Nat.min_le_left _ _

theorem pairwise : f.read.Pairwise fun a b => a.1 < b.1 := by
  rw [h.read]
  exact (pairwise_due selects start f.stored).sublist (List.take_sublist _ _)

/-- The page shows what is read. -/
theorem items_eq : f.page.items = f.read.map Prod.snd := by
  rw [h.page, items_ofSequenced]

theorem nextCursor_isSome (hsize : 0 < size) : f.page.nextCursor.isSome ↔ f.read.length = size := by
  rw [h.page, nextCursor_ofSequenced_isSome]
  simp only [hsize, true_and]

/-- A page that is not full shows all that is due. -/
theorem read_eq_due (hsize : 0 < size) (hend : f.page.nextCursor = none) :
    f.read = due selects start f.stored := by
  have hnot : f.read.length ≠ size := by
    intro hfull
    have hsome := (h.nextCursor_isSome hsize).2 hfull
    rw [hend] at hsome
    cases hsome
  have hlen := congrArg List.length h.read
  rw [List.length_take] at hlen
  rw [h.read, List.take_of_length_le]
  omega

theorem start?_nextCursor (hfew : f.stored.length ≤ Cursor.limit) (hmore : f.page.nextCursor.isSome) :
    start? f.page.nextCursor = .ok (last? f.read) := by
  have hcursor : f.page.nextCursor = after f.read := by
    rw [h.page] at hmore ⊢
    rw [ofSequenced, if_pos (nextCursor_ofSequenced_isSome.1 hmore)]
    rfl
  rw [hcursor]
  refine start?_after_of_bounded ?_
  intro a ha
  exact (Memory.ascending_sequenced hfew).bounded a (Page.mem_due.1 (h.mem_due ha)).1

theorem read_ne_nil (hsize : 0 < size) (hmore : f.page.nextCursor.isSome) : f.read ≠ [] := by
  have hfull := (h.nextCursor_isSome hsize).1 hmore
  exact List.ne_nil_of_length_pos (by omega)

theorem mem_or_due {a : Nat × Record} (ha : a ∈ due selects start f.stored) :
    a ∈ f.read ∨ Page.isBehind (last? f.read) a.1 = true := by
  rw [h.read]
  rw [← List.take_append_drop size (due selects start f.stored)] at ha
  rcases List.mem_append.1 ha with ha | ha
  · exact .inl ha
  · exact .inr (isBehind_last?_take (pairwise_due selects start f.stored) ha)

/-- If nothing changes, what is due behind a page is what it has left. -/
theorem due_last? (hsize : 0 < size) (hmore : f.page.nextCursor.isSome) :
    due selects (last? f.read) f.stored = (due selects start f.stored).drop size := by
  have hsplit : f.read ++ (due selects start f.stored).drop size = due selects start f.stored := by
    rw [h.read, List.take_append_drop]
  have hbehind : (due selects start f.stored).filter (fun a => Page.isBehind (last? f.read) a.1) =
      (due selects start f.stored).drop size := by
    have hsorted := pairwise_due selects start f.stored
    rw [← hsplit] at hsorted
    have hrest := filter_isBehind hsorted
    rwa [hsplit] at hrest
  rw [← hbehind]
  simp only [due, List.filter_filter]
  refine List.filter_congr ?_
  intro a _
  cases hlast : Page.isBehind (last? f.read) a.1 with
  | false => rfl
  | true =>
      have hstart := isBehind_of_last? (fun b hb => h.isBehind hb) (h.read_ne_nil hsize hmore) hlast
      rw [hstart]
      rfl

end Fetch.Reads

/-! ### Walks -/

/-- A walk that goes on behind a page has ended if the rest of it has. -/
theorem ended_cons (hmore : f.page.nextCursor.isSome) : Ended (f :: fs) ↔ Ended fs := by
  unfold Ended
  cases fs with
  | nil =>
      constructor
      · rintro ⟨g, hg, hnone⟩
        rw [List.getLast?_singleton, Option.some_inj] at hg
        rw [hg, hnone] at hmore
        cases hmore
      · rintro ⟨g, hg, -⟩
        cases hg
  | cons g fs => rw [List.getLast?_cons_cons]

namespace Walked

/-- Each fetch of a walk reads behind some place. -/
theorem reads (h : Walked selects size start fs) (hf : f ∈ fs) :
    ∃ start, f.Reads selects size start := by
  induction h with
  | stop start => cases hf
  | last h hend =>
      obtain rfl := List.mem_singleton.1 hf
      exact ⟨_, h⟩
  | next h hmore rest ih =>
      rcases List.mem_cons.1 hf with rfl | hf
      · exact ⟨_, h⟩
      · exact ih hf

theorem isBehind (h : Walked selects size start fs) (hsize : 0 < size) {a : Nat × Record}
    (ha : a ∈ fs.flatMap Fetch.read) : Page.isBehind start a.1 = true := by
  induction h with
  | stop start => cases ha
  | last h hend =>
      rw [List.flatMap_singleton] at ha
      exact h.isBehind ha
  | next h hmore rest ih =>
      rw [List.flatMap_cons] at ha
      rcases List.mem_append.1 ha with ha | ha
      · exact h.isBehind ha
      · exact isBehind_of_last? (fun b hb => h.isBehind hb) (h.read_ne_nil hsize hmore) (ih ha)

/-- **The numbers read ascend over the whole walk.** -/
theorem ascending (h : Walked selects size start fs) (hsize : 0 < size) :
    (fs.flatMap Fetch.read).Pairwise fun a b => a.1 < b.1 := by
  induction h with
  | stop start => exact .nil
  | last h hend =>
      rw [List.flatMap_singleton]
      exact h.pairwise
  | @next start f fs h hmore rest ih =>
      rw [List.flatMap_cons]
      refine List.pairwise_append.2 ⟨h.pairwise, ih, ?_⟩
      intro a ha b hb
      have hlast : last? f.read = some (f.read.getLast (h.read_ne_nil hsize hmore)).1 := by
        rw [last?, List.getLast?_eq_some_getLast (h.read_ne_nil hsize hmore), Option.map_some]
      have hbehind := rest.isBehind hsize hb
      rw [hlast, Page.isBehind, decide_eq_true_eq] at hbehind
      -- nothing on the page is behind its last entry
      have hle : a.1 ≤ (f.read.getLast (h.read_ne_nil hsize hmore)).1 := by
        have hpair := h.pairwise
        rw [← List.dropLast_concat_getLast (h.read_ne_nil hsize hmore)] at ha hpair
        rcases List.mem_append.1 ha with ha | ha
        · exact Nat.le_of_lt ((List.pairwise_append.1 hpair).2.2 a ha _ List.mem_cons_self)
        · exact Nat.le_of_eq (congrArg Prod.fst (List.mem_singleton.1 ha))
      omega

/-- **A walk that has ended has read what was selected at each of its fetches.** -/
theorem complete (h : Walked selects size start fs) (hsize : 0 < size) (hend : Ended fs) {n : Nat}
    (hn : Page.isBehind start n = true)
    (hall : ∀ f ∈ fs, ∃ r, (n, r) ∈ Memory.sequenced f.stored ∧ selects r = true) :
    ∃ r, (n, r) ∈ fs.flatMap Fetch.read := by
  induction h with
  | stop start =>
      obtain ⟨f, hf, -⟩ := hend
      cases hf
  | last h hlast =>
      obtain ⟨r, hr, hsel⟩ := hall _ List.mem_cons_self
      refine ⟨r, ?_⟩
      rw [List.flatMap_singleton, h.read_eq_due hsize hlast]
      exact mem_due.2 ⟨hr, hsel, hn⟩
  | @next start f fs h hmore rest ih =>
      obtain ⟨r, hr, hsel⟩ := hall _ List.mem_cons_self
      rw [List.flatMap_cons]
      -- the record is on this page or due behind it
      rcases h.mem_or_due (mem_due.2 ⟨hr, hsel, hn⟩) with hread | hbehind
      · exact ⟨r, List.mem_append_left _ hread⟩
      · obtain ⟨r', hr'⟩ := ih ((ended_cons hmore).1 hend) hbehind
          fun g hg => hall g (List.mem_cons_of_mem _ hg)
        exact ⟨r', List.mem_append_right _ hr'⟩

theorem mem_read (h : Walked selects size start fs) {a : Nat × Record}
    (ha : a ∈ fs.flatMap Fetch.read) :
    ∃ f ∈ fs, a ∈ Memory.sequenced f.stored ∧ selects a.2 = true := by
  obtain ⟨f, hf, ha⟩ := List.mem_flatMap.1 ha
  obtain ⟨start, hreads⟩ := h.reads hf
  obtain ⟨hstored, hsel, -⟩ := mem_due.1 (hreads.mem_due ha)
  exact ⟨f, hf, hstored, hsel⟩

/-- The pages of records that nobody changes: if the walk has ended, as many as it takes and one that is
not full, and all that is due is on them; if not, all of them are full. -/
theorem still (h : Walked selects size start fs) (hsize : 0 < size)
    (hsame : ∀ f ∈ fs, f.stored = stored) :
    (Ended fs ∧ fs.length = (due selects start stored).length / size + 1 ∧
      fs.flatMap Fetch.read = due selects start stored) ∨
    (¬Ended fs ∧ fs.length * size ≤ (due selects start stored).length) := by
  induction h with
  | stop start =>
      refine .inr ⟨?_, ?_⟩
      · rintro ⟨f, hf, -⟩
        cases hf
      · rw [List.length_nil, Nat.zero_mul]
        exact Nat.zero_le _
  | @last start f h hend =>
      obtain rfl := hsame f List.mem_cons_self
      have hread := h.read_eq_due hsize hend
      have hless : (due selects start f.stored).length < size := by
        have hle := h.length_le
        have hne : f.read.length ≠ size := by
          intro hfull
          have hsome := (h.nextCursor_isSome hsize).2 hfull
          rw [hend] at hsome
          cases hsome
        rw [hread] at hle hne
        omega
      refine .inl ⟨⟨f, rfl, hend⟩, ?_, ?_⟩
      · rw [Nat.div_eq_of_lt hless]
        rfl
      · rw [List.flatMap_singleton, hread]
  | @next start f fs h hmore rest ih =>
      obtain rfl := hsame f List.mem_cons_self
      have hfull := (h.nextCursor_isSome hsize).1 hmore
      have hlen := congrArg List.length h.read
      rw [List.length_take] at hlen
      have hrest := ih fun g hg => hsame g (List.mem_cons_of_mem _ hg)
      rw [h.due_last? hsize hmore, List.length_drop] at hrest
      rcases hrest with ⟨hended, hlength, hread⟩ | ⟨hopen, hlength⟩
      · left
        refine ⟨(ended_cons hmore).2 hended, ?_, ?_⟩
        · have hsize_le : size ≤ (due selects start f.stored).length := by omega
          rw [List.length_cons, hlength, ← Nat.div_eq_sub_div hsize hsize_le]
        · rw [List.flatMap_cons, hread, h.read, List.take_append_drop]
      · right
        refine ⟨fun hended => hopen ((ended_cons hmore).1 hended), ?_⟩
        · rw [List.length_cons, Nat.succ_mul]
          omega

end Walked

/-! ### Records that keep their places -/

/-- Fetches between which records keep their places: the imprints stored at one begin those stored at the
later ones, and no version is stored twice. -/
structure Rooted (fs : List Fetch) : Prop where
  growing : fs.Pairwise fun f g => f.stored.map Record.imprint <+: g.stored.map Record.imprint
  distinct : ∀ f ∈ fs, Distinct (f.stored.map Record.imprint)

/-- The versions that pages show, one after the other. -/
def shown (fs : List Fetch) : List (String × String) :=
  (fs.flatMap fun f => f.page.items).map fun r => (r.name, r.version)

/-- If the imprints stored at a fetch begin those at another, a version has one place at both. -/
theorem place_of_isPrefix {g : Fetch} (hd : Distinct (g.stored.map Record.imprint))
    (hpre : f.stored.map Record.imprint <+: g.stored.map Record.imprint) {a b : Nat × Record}
    (ha : a ∈ Memory.sequenced f.stored) (hb : b ∈ Memory.sequenced g.stored)
    (hname : a.2.name = b.2.name) (hversion : a.2.version = b.2.version) : a.1 = b.1 := by
  obtain ⟨i, hi, hri⟩ := Memory.mem_sequenced.1 ha
  obtain ⟨j, hj, hrj⟩ := Memory.mem_sequenced.1 hb
  have hia : (f.stored.map Record.imprint)[i]? = some a.2.imprint := by
    rw [List.getElem?_map, hri, Option.map_some]
  have hjb : (g.stored.map Record.imprint)[j]? = some b.2.imprint := by
    rw [List.getElem?_map, hrj, Option.map_some]
  have hig : (g.stored.map Record.imprint)[i]? = some a.2.imprint := by
    obtain ⟨hlt, hget⟩ := List.getElem?_eq_some_iff.1 hia
    rw [List.prefix_iff_getElem?.1 hpre i hlt, hget]
  rw [hi, hj, hd.versions hig hjb hname hversion]

/-- A version has one place at all fetches. -/
theorem Rooted.place (h : Rooted fs) {g : Fetch} (hf : f ∈ fs) (hg : g ∈ fs) {a b : Nat × Record}
    (ha : a ∈ Memory.sequenced f.stored) (hb : b ∈ Memory.sequenced g.stored)
    (hname : a.2.name = b.2.name) (hversion : a.2.version = b.2.version) : a.1 = b.1 := by
  obtain ⟨i, hi, rfl⟩ := List.mem_iff_getElem.1 hf
  obtain ⟨j, hj, rfl⟩ := List.mem_iff_getElem.1 hg
  have hgrow := List.pairwise_iff_getElem.1 h.growing
  rcases Nat.lt_trichotomy i j with hij | rfl | hij
  · exact place_of_isPrefix (h.distinct _ hg) (hgrow i j hi hj hij) ha hb hname hversion
  · exact place_of_isPrefix (h.distinct _ hg) List.prefix_rfl ha hb hname hversion
  · exact (place_of_isPrefix (h.distinct _ hf) (hgrow j i hj hi hij) hb ha hname.symm
      hversion.symm).symm

namespace Walked

variable (h : Walked selects size start fs) (hr : Rooted fs)
include h

/-- The pages of a walk show what it reads. -/
theorem items_eq : (fs.flatMap fun f => f.page.items) = (fs.flatMap Fetch.read).map Prod.snd := by
  have hpages : ∀ f ∈ fs, f.page.items = f.read.map Prod.snd := by
    intro f hf
    obtain ⟨start, hreads⟩ := h.reads hf
    exact hreads.items_eq
  rw [List.map_flatMap]
  exact List.flatMap_congr hpages

theorem shown_eq : shown fs = (fs.flatMap Fetch.read).map fun a => (a.2.name, a.2.version) := by
  rw [shown, h.items_eq, List.map_map]
  rfl

include hr

/-- **No version is shown twice.** -/
theorem nodup_shown (hsize : 0 < size) : (shown fs).Nodup := by
  rw [h.shown_eq]
  refine List.pairwise_map.2 ((h.ascending hsize).imp_of_mem ?_)
  intro a b ha hb hless heq
  obtain ⟨f, hf, hstored, -⟩ := h.mem_read ha
  obtain ⟨g, hg, hstored', -⟩ := h.mem_read hb
  obtain ⟨hname, hversion⟩ := Prod.mk.inj heq
  have hplace := hr.place hf hg hstored hstored' hname hversion
  omega

/-- **A version that is selected at each fetch is shown once** if the walk has ended. -/
theorem count_shown (hsize : 0 < size) (hstart : start = none) (hend : Ended fs)
    {name version : String} (hall : ∀ f ∈ fs, ∃ r ∈ f.stored, r.name = name ∧ r.version = version ∧
      selects r = true) : (shown fs).count (name, version) = 1 := by
  have hplaces : ∀ f ∈ fs, ∃ a ∈ Memory.sequenced f.stored, a.2.name = name ∧
      a.2.version = version ∧ selects a.2 = true := by
    intro f hf
    obtain ⟨r, hmem, hkey⟩ := hall f hf
    rw [← Memory.map_snd_sequenced f.stored] at hmem
    obtain ⟨a, ha, rfl⟩ := List.mem_map.1 hmem
    exact ⟨a, ha, hkey⟩
  obtain ⟨last, hlast, -⟩ := id hend
  obtain ⟨⟨n, r⟩, ha, hname, hversion, -⟩ := hplaces last (List.mem_of_getLast? hlast)
  -- the version has its place at all fetches, so the walk comes by there
  obtain ⟨x, hread⟩ : ∃ x, (n, x) ∈ fs.flatMap Fetch.read := by
    refine h.complete hsize hend (n := n) (by rw [hstart]; rfl) ?_
    intro f hf
    obtain ⟨⟨k, x⟩, hb, hname', hversion', hsel⟩ := hplaces f hf
    have hplace := hr.place (List.mem_of_getLast? hlast) hf ha hb (hname.trans hname'.symm)
      (hversion.trans hversion'.symm)
    exact ⟨x, (show n = k from hplace) ▸ hb, hsel⟩
  refine List.nodup_iff_count_eq_one.1 (h.nodup_shown hr hsize) _ ?_
  obtain ⟨f, hf, hstored, -⟩ := h.mem_read hread
  obtain ⟨⟨k, y⟩, hb, hname', hversion', -⟩ := hplaces f hf
  have hplace := hr.place (List.mem_of_getLast? hlast) hf ha hb (hname.trans hname'.symm)
    (hversion.trans hversion'.symm)
  obtain rfl : n = k := hplace
  have hsame : x = y := by
    obtain ⟨i, hi, hxi⟩ := Memory.mem_sequenced.1 hstored
    obtain ⟨j, hj, hyj⟩ := Memory.mem_sequenced.1 hb
    obtain rfl : i = j := by
      simp only at hi hj
      omega
    exact Option.some_inj.1 (hxi.symm.trans hyj)
  rw [h.shown_eq]
  refine List.mem_map.2 ⟨(n, x), hread, ?_⟩
  rw [hsame, ← hname', ← hversion']

end Walked

end Page

end ManifestRegistry
