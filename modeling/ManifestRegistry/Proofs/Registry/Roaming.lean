/-
**Pages fetched while others write.**

Someone follows the cursors of a listing from its beginning, and between two fetches any visitors may have
their way with the registry.  As no visit takes a version from its place, the pages show no version twice
and leave out none that is selected all the time; if nobody comes by meanwhile, they show the selected
records in order.  The table shows this much even of records with bags that it does not read back as they
were, as long as it can read them at all.

Main definitions:

* `Registry.Round`, `Registry.roam` — **fetches with visits before each**;
* `Registry.Wandered` — what is known of fetches from a place on;
* `Registry.Displays` — a store that shows what a filter selects of some records;
* `Registry.Keeper` — a kind of stores that do so whatever visitors do.

Main results:

* `Registry.Displays.list` — a fetch reads the first records that are due;
* `Registry.Keeper.wandered` — **the fetches are a walk through records that keep their places**.
-/

import ManifestRegistry.Proofs.Paging.Walks
import ManifestRegistry.Proofs.Registry.Growth
import ManifestRegistry.Proofs.Service.Carrying

set_option relaxedAutoImplicit false
set_option autoImplicit false

namespace ManifestRegistry

open Service Storage

namespace Registry

/-- A fetch, and the visits before it. -/
structure Round where
  visits : List Visit
  now : Instant

/-- The pages that someone fetches who follows the cursors as long as there are any: the store at each
fetch, and what the fetch comes to. -/
def roam {σ : Type} [PacedStore σ] (filter : Filter) (limit : Nat) :
    Option String → List Round → Registry σ → List (σ × Outcome (Page Record))
  | _, [], _ => []
  | cursor, round :: rounds, r =>
    let r := r.serveAll round.visits
    let (outcome, after) := r.list round.now filter cursor limit
    (r.store, outcome) ::
      match outcome with
      | .ok ⟨_, some cursor⟩ => roam filter limit (some cursor) rounds after
      | _ => []

section

variable {σ : Type} [PacedStore σ] {r : Registry σ} {filter : Filter} {limit : Nat}
  {cursor : Option String} {round : Round} {page : Page Record}

theorem roam_last (h : (r.serveAll round.visits).list round.now filter cursor limit =
    (.ok page, r.serveAll round.visits)) (hend : page.nextCursor = none) (rounds : List Round) :
    r.roam filter limit cursor (round :: rounds) = [((r.serveAll round.visits).store, .ok page)] := by
  obtain ⟨items, next⟩ := page
  obtain rfl : next = none := hend
  simp only [roam, h]

theorem roam_next (h : (r.serveAll round.visits).list round.now filter cursor limit =
    (.ok page, r.serveAll round.visits)) {cursor' : String} (hmore : page.nextCursor = some cursor')
    (rounds : List Round) : r.roam filter limit cursor (round :: rounds) =
      ((r.serveAll round.visits).store, .ok page) ::
        (r.serveAll round.visits).roam filter limit (some cursor') rounds := by
  obtain ⟨items, next⟩ := page
  obtain rfl : next = some cursor' := hmore
  simp only [roam, h]

end

/-! ### Fetches one after the other -/

/-- A fetch of a page: what is stored can be read then, and the page is what the fetch comes to. -/
def Fetched {σ : Type} (entries : σ → List (Except StorageError Record))
    (x : σ × Outcome (Page Record)) (f : Page.Fetch) : Prop :=
  entries x.1 = f.stored.map .ok ∧ x.2 = .ok f.page

/-- What is known of fetches from a place on, when the imprints in `ms` were stored before. -/
structure Wandered {σ : Type} (entries : σ → List (Except StorageError Record)) (filter : Filter)
    (size : Nat) (ms : List Imprint) (start : Option Nat) (rounds : List Round)
    (tour : List (σ × Outcome (Page Record))) (fs : List Page.Fetch) : Prop where
  fetched : List.Forall₂ (Fetched entries) tour fs
  walked : Page.Walked filter.selects size start fs
  rooted : Page.Rooted fs
  behind : ∀ f ∈ fs, ms <+: f.stored.map Record.imprint
  /-- They go on until there is no cursor or nobody fetches any more. -/
  stops : fs.length = rounds.length ∨ Page.Ended fs

section

variable {σ : Type} {entries : σ → List (Except StorageError Record)} {filter : Filter} {size : Nat}
  {ms : List Imprint} {start : Option Nat} {rounds : List Round}
  {tour : List (σ × Outcome (Page Record))} {fs : List Page.Fetch}

theorem wandered_nil (start : Option Nat) :
    Wandered entries filter size ms start [] ([] : List (σ × Outcome (Page Record))) [] where
  fetched := .nil
  walked := .stop start
  rooted := ⟨.nil, fun _ hf => absurd hf List.not_mem_nil⟩
  behind _ hf := absurd hf List.not_mem_nil
  stops := .inl rfl

variable {s : σ} {f : Page.Fetch} (hentries : entries s = f.stored.map .ok)
  (hreads : f.Reads filter.selects size start) (hdistinct : Distinct (f.stored.map Record.imprint))
  (hbehind : ms <+: f.stored.map Record.imprint)
include hentries hreads hdistinct hbehind

theorem wandered_last (hend : f.page.nextCursor = none) :
    Wandered entries filter size ms start rounds [(s, .ok f.page)] [f] where
  fetched := .cons ⟨hentries, rfl⟩ .nil
  walked := .last hreads hend
  rooted := by
    refine ⟨List.pairwise_singleton _ _, ?_⟩
    intro g hg
    rwa [List.mem_singleton.1 hg]
  behind g hg := by rwa [List.mem_singleton.1 hg]
  stops := .inr ⟨f, rfl, hend⟩

theorem Wandered.cons (hmore : f.page.nextCursor.isSome)
    (h : Wandered entries filter size (f.stored.map Record.imprint) (Page.last? f.read) rounds tour fs)
    (round : Round) : Wandered entries filter size ms start (round :: rounds)
      ((s, .ok f.page) :: tour) (f :: fs) where
  fetched := .cons ⟨hentries, rfl⟩ h.fetched
  walked := .next hreads hmore h.walked
  rooted := by
    refine ⟨List.pairwise_cons.2 ⟨h.behind, h.rooted.growing⟩, ?_⟩
    intro g hg
    rcases List.mem_cons.1 hg with rfl | hg
    · exact hdistinct
    · exact h.rooted.distinct g hg
  behind g hg := by
    rcases List.mem_cons.1 hg with rfl | hg
    · exact hbehind
    · exact hbehind.trans (h.behind g hg)
  stops := by
    rcases h.stops with hlen | hend
    · exact .inl (by rw [List.length_cons, List.length_cons, hlen])
    · exact .inr ((Page.ended_cons hmore).2 hend)

end

/-! ### Stores that display records -/

/-- An open store that shows of some records, not more than cursors can count, those that a filter
selects. -/
structure Displays {σ : Type} [Store σ] [Catalog σ] (s : σ) (filter : Filter) (stored : List Record) :
    Prop where
  isOpen : Catalog.IsOpen s
  selected : Catalog.selected s filter =
    ((Memory.sequenced stored).filter fun a => filter.selects a.2).map Entry.shown
  few : stored.length ≤ Cursor.limit

variable {σ : Type} [Store σ] [Catalog σ] {s : σ} {filter : Filter} {stored : List Record}

/-- **A fetch reads the first records that are due**, and leaves the registry as it is. -/
theorem Displays.list {r : Registry σ} (h : Displays r.store filter stored) {cursor : Option String}
    {start : Option Nat} (hstart : Page.start? cursor = .ok start) (limit : Nat) (now : Instant) :
    ∃ f : Page.Fetch, f.stored = stored ∧ f.Reads filter.selects (r.config.pageSize limit) start ∧
      r.list now filter cursor limit = (.ok f.page, r) := by
  let read := (Page.due filter.selects start stored).take (r.config.pageSize limit)
  refine ⟨⟨stored, read, Page.ofSequenced read (r.config.pageSize limit)⟩, rfl, ⟨rfl, rfl⟩, ?_⟩
  have hpage : listing (Catalog.selected r.store filter) cursor (r.config.pageSize limit) =
      .ok (Page.ofSequenced read (r.config.pageSize limit)) := by
    refine listing_eq_ok.2 ⟨start, read, hstart, ?_, rfl⟩
    rw [h.selected, List.filter_map, ← List.map_take]
    rfl
  unfold Registry.list ask call
  rw [within_eq_call, Catalog.call_list h.isOpen, hpage]
  rfl

theorem list_snd {r : Registry σ} (h : Catalog.IsOpen r.store) (filter : Filter)
    (cursor : Option String) (limit : Nat) (now : Instant) : (r.list now filter cursor limit).2 = r := by
  unfold Registry.list ask call
  rw [within_eq_call, Catalog.call_list h]

theorem store_of_quiet {r : Registry σ} (h : Catalog.IsOpen r.store) {limit : Nat} {rounds : List Round}
    (hquiet : ∀ round ∈ rounds, round.visits = []) {cursor : Option String}
    {x : σ × Outcome (Page Record)} (hx : x ∈ r.roam filter limit cursor rounds) : x.1 = r.store := by
  induction rounds generalizing cursor with
  | nil => cases hx
  | cons round rounds ih =>
      have hsame : r.serveAll round.visits = r := by
        rw [hquiet round List.mem_cons_self]
        rfl
      have hafter := list_snd h filter cursor limit round.now
      simp only [roam, hsame, hafter] at hx
      rcases List.mem_cons.1 hx with rfl | hx
      · rfl
      · split at hx
        · exact ih (fun round hr => hquiet round (List.mem_cons_of_mem _ hr)) hx
        · cases hx

variable [Ledger σ]

/-- What visits keep so that a store displays, for a filter, the records that can be read of its
entries. -/
structure Keeper (entries : σ → List (Except StorageError Record)) (filter : Filter)
    (visits : List Visit) (Good : σ → Prop) : Prop where
  displays {s : σ} {rs : List Record} {past : List Visit} (h : Lasting s rs past)
    (hfew : past.length ≤ Cursor.limit) (hgood : Good s) :
    ∃ stored, entries s = stored.map .ok ∧ stored.map Record.imprint = rs.map Record.imprint ∧
      Displays s filter stored
  serve {r : Registry σ} {v : Visit} (hv : v ∈ visits) (h : Good r.store) : Good (r.serve v).store

namespace Keeper

variable {entries : σ → List (Except StorageError Record)} {visits : List Visit} {Good : σ → Prop}
  {rs : List Record} {past : List Visit} {start : Option Nat} {rounds : List Round}
  (hk : Keeper entries filter visits Good)
include hk

theorem serveAll {r : Registry σ} {vs : List Visit} (hvs : ∀ v ∈ vs, v ∈ visits)
    (h : Good r.store) : Good (r.serveAll vs).store := by
  induction vs generalizing r with
  | nil => exact h
  | cons v vs ih =>
      exact ih (fun u hu => hvs u (List.mem_cons_of_mem _ hu)) (hk.serve (hvs v List.mem_cons_self) h)

/-- **The fetches are a walk through records that keep their places.** -/
theorem wandered {r : Registry σ} (limit : Nat) (h : Lasting r.store rs past) (hgood : Good r.store)
    (hp : Visits.Proper (past ++ rounds.flatMap Round.visits))
    (hvs : ∀ v ∈ rounds.flatMap Round.visits, v ∈ visits) {cursor : Option String}
    (hstart : Page.start? cursor = .ok start) :
    ∃ fs, Wandered entries filter (r.config.pageSize limit) (rs.map Record.imprint) start rounds
      (r.roam filter limit cursor rounds) fs := by
  induction rounds generalizing r rs past cursor start with
  | nil => exact ⟨[], wandered_nil start⟩
  | cons round rounds ih =>
      rw [List.flatMap_cons, ← List.append_assoc] at hp
      -- the visits of this round, and the page fetched after them
      obtain ⟨rs₁, h₁, hpre⟩ := h.serveAll hp.left
      have hgood₁ := hk.serveAll (fun v hv => hvs v (List.mem_append_left _ hv)) hgood
      obtain ⟨stored, hentries, himprints, hdisplays⟩ := hk.displays h₁ hp.left.few hgood₁
      obtain ⟨f, rfl, hreads, hlist⟩ := hdisplays.list hstart limit round.now
      rw [config_serveAll] at hreads
      rw [← himprints] at hpre
      have hdistinct : Distinct (f.stored.map Record.imprint) := himprints ▸ h₁.distinct
      cases hnext : f.page.nextCursor with
      | none =>
          rw [roam_last hlist hnext]
          exact ⟨[f], wandered_last hentries hreads hdistinct hpre hnext⟩
      | some cursor' =>
          have hmore : f.page.nextCursor.isSome := by rw [hnext]; rfl
          have hstart' := hreads.start?_nextCursor hdisplays.few hmore
          rw [hnext] at hstart'
          obtain ⟨fs, hrest⟩ := ih h₁ hgood₁ hp
            (fun v hv => hvs v (List.mem_append_right _ hv)) hstart'
          rw [config_serveAll, ← himprints] at hrest
          rw [roam_next hlist hnext]
          exact ⟨f :: fs, hrest.cons hentries hreads hdistinct hpre hmore round⟩

end Keeper

end Registry

end ManifestRegistry
