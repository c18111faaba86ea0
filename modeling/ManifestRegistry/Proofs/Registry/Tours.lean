/-
**What the pages show that are fetched while others write.**

A store that displays its records shows them in the order in which they came, page by page, whatever
visitors do between the fetches: none of them twice, and every one that is selected all the time.  A list
displays any records.  A table displays those whose documents it can read and whose instants its stamps
can tell apart; as both outlast writing and reading, it is enough that visitors bring nothing else.

Main definitions:

* `Registry.Tour` — **what is claimed of pages fetched one behind the other**;
* `Registry.Placed` — a record that a table can select and read.

Main results:

* `Registry.Keeper.tour` — the pages of any store that displays its records;
* `Registry.roam_tour` — **the pages of a list and of a table**.
-/

import ManifestRegistry.Proofs.Registry.Roaming
import ManifestRegistry.Proofs.Service.Carrying
import ManifestRegistry.Proofs.Storage.Agreement

set_option relaxedAutoImplicit false
set_option autoImplicit false

namespace ManifestRegistry

open Service Storage

namespace Registry

/-- What is claimed of pages that someone fetches behind each other, under some settings and from a store
that begins with some entries: `fs` tells what each fetch reads. -/
structure Tour {σ : Type} (entries : σ → List (Except StorageError Record)) (config : Config)
    (filter : Filter) (limit : Nat) (s : σ) (rounds : List Round)
    (tour : List (σ × Outcome (Page Record))) (fs : List Page.Fetch) : Prop where
  /-- Every fetch comes to a page. -/
  fetched : List.Forall₂ (Fetched entries) tour fs
  /-- The page shows numbered records that are stored and selected then. -/
  read : ∀ f ∈ fs, f.page.items = f.read.map Prod.snd ∧
    ∀ a ∈ f.read, a ∈ Memory.sequenced f.stored ∧ filter.selects a.2 = true
  /-- The numbers ascend over all pages. -/
  ascending : (fs.flatMap Page.Fetch.read).Pairwise fun a b => a.1 < b.1
  /-- Records keep their places from fetch to fetch. -/
  rooted : Page.Rooted fs
  /-- No version is shown twice. -/
  nodup : (Page.shown fs).Nodup
  /-- When there is no cursor any more, a version that was selected at each fetch has been shown once. -/
  complete : Page.Ended fs → ∀ name version, (∀ f ∈ fs, ∃ r ∈ f.stored, r.name = name ∧
    r.version = version ∧ filter.selects r = true) → (Page.shown fs).count (name, version) = 1
  /-- No page is too large, and there is a cursor unless it has room left. -/
  sizes : ∀ f ∈ fs, f.page.items.length ≤ max config.maxPage 1 ∧
    f.page.items.length ≤ config.pageSize limit ∧
    (f.page.nextCursor = none ↔ f.page.items.length < config.pageSize limit)
  /-- The fetches go on until there is no cursor or nobody fetches any more. -/
  stops : fs.length = rounds.length ∨ Page.Ended fs
  /-- If nobody writes, there are as many pages as it takes and one that is not full, with all that is
  selected in order. -/
  still : (∀ round ∈ rounds, round.visits = []) → ∃ stored : List Record, entries s = stored.map .ok ∧
    let selected := stored.filter filter.selects
    let pages := selected.length / config.pageSize limit + 1
    pages ≤ rounds.length → fs.length = pages ∧ Page.Ended fs ∧
      (fs.flatMap fun f => f.page.items) = selected

variable {σ : Type} [Store σ] [Catalog σ] [Ledger σ] {entries : σ → List (Except StorageError Record)}
  {filter : Filter} {visits : List Visit} {Good : σ → Prop} {rs : List Record} {past : List Visit}
  {rounds : List Round}

omit [Store σ] [Catalog σ] [Ledger σ] in
/-- The pages of records that nobody changes. -/
theorem Wandered.still {size : Nat} {ms : List Imprint} {tour : List (σ × Outcome (Page Record))}
    {fs : List Page.Fetch} (h : Wandered entries filter size ms none rounds tour fs) (hsize : 0 < size)
    {stored : List Record} (hsame : ∀ f ∈ fs, f.stored = stored)
    (henough : (stored.filter filter.selects).length / size + 1 ≤ rounds.length) :
    fs.length = (stored.filter filter.selects).length / size + 1 ∧ Page.Ended fs ∧
      (fs.flatMap fun f => f.page.items) = stored.filter filter.selects := by
  have hdue := Page.map_snd_due_none filter.selects stored
  have hlen := congrArg List.length hdue
  rw [List.length_map] at hlen
  rcases h.walked.still hsize hsame with ⟨hend, hlength, hread⟩ | ⟨hopen, hfull⟩
  · rw [hlen] at hlength
    rw [h.walked.items_eq, hread, hdue]
    exact ⟨hlength, hend, rfl⟩
  · -- with so many rounds not all pages can have been full
    have hlength : fs.length = rounds.length := h.stops.resolve_right hopen
    rw [hlen, hlength] at hfull
    have hle := (Nat.le_div_iff_mul_le hsize).2 hfull
    omega

/-- **The pages of a store that displays its records.** -/
theorem Keeper.tour (hk : Keeper entries filter visits Good) {r : Registry σ}
    (h : Lasting r.store rs past) (hgood : Good r.store)
    (hp : Visits.Proper (past ++ rounds.flatMap Round.visits))
    (hvs : ∀ v ∈ rounds.flatMap Round.visits, v ∈ visits) (limit : Nat) :
    ∃ fs, Tour entries r.config filter limit r.store rounds (r.roam filter limit none rounds) fs := by
  have hbegin : Page.start? none = .ok none := rfl
  obtain ⟨fs, hw⟩ := hk.wandered limit h hgood hp hvs hbegin
  have hsize := r.config.pageSize_pos limit
  refine ⟨fs, hw.fetched, ?_, hw.walked.ascending hsize, hw.rooted,
    hw.walked.nodup_shown hw.rooted hsize, ?_, ?_, hw.stops, ?_⟩
  · intro f hf
    obtain ⟨start, hreads⟩ := hw.walked.reads hf
    refine ⟨hreads.items_eq, ?_⟩
    intro a ha
    obtain ⟨hstored, hsel, -⟩ := Page.mem_due.1 (hreads.mem_due ha)
    exact ⟨hstored, hsel⟩
  · intro hend name version hall
    exact hw.walked.count_shown hw.rooted hsize rfl hend hall
  · intro f hf
    obtain ⟨start, hreads⟩ := hw.walked.reads hf
    have hle := hreads.length_le
    have hfull := hreads.nextCursor_isSome hsize
    rw [hreads.items_eq, List.length_map]
    refine ⟨Nat.le_trans hle (r.config.pageSize_le limit), hle, ?_⟩
    rw [← Option.not_isSome_iff_eq_none, hfull]
    omega
  · intro hquiet
    obtain ⟨stored, hentries, -, hdisplays⟩ := hk.displays h hp.left.few hgood
    refine ⟨stored, hentries, ?_⟩
    refine hw.still hsize ?_
    intro f hf
    obtain ⟨x, hx, hentries', -⟩ := exists_of_forall₂ hw.fetched hf
    rw [store_of_quiet hdisplays.isOpen hquiet hx, hentries] at hentries'
    exact (List.map_injective_iff.2 (fun _ _ => Except.ok.inj) hentries').symm

/-! ### The list store -/

theorem keeper_memory (filter : Filter) (visits : List Visit) :
    Keeper (fun m : Memory => m.records.map .ok) filter visits fun _ => True where
  displays {m rs past} h hfew _ := by
    obtain ⟨hopen, rfl⟩ := h.keeps
    exact ⟨m.records, rfl, rfl, hopen, rfl, Nat.le_trans h.few hfew⟩
  serve _ _ := trivial

/-! ### The table -/

/-- A record that a table can select and read. -/
structure Placed (r : Record) : Prop where
  dated : r.IsDated
  inEra : r.InEra
  readable : r.bag.Readable

theorem durable_placed : Durable Placed where
  dated h := h.dated
  reread publishedBy h hread := by
    have hrestored := durable_restorable.reread publishedBy ⟨h.dated, h.readable⟩ hread
    exact ⟨hrestored.dated, ⟨h.inEra.published, h.inEra.updated⟩, hrestored.readable⟩

/-- What a visitor's job makes can be selected and read, if the bag that comes with it can be read. -/
theorem makes_placed {demand : Demand} {config : Config} {validator : Manifest.Validator}
    {moment : Moment} (hnow : moment.now.IsReading) (hera : moment.now.InEra)
    (hbag : demand.bag.Readable) : (demand.request config validator).job.Makes Placed moment := by
  have hbag' : (demand.request config validator).bag.Readable := by
    cases demand <;> exact hbag
  have hmakes := makes_restorable hnow hbag'
  -- what remains are the years
  cases demand with
  | publish submission publisher =>
      refine ⟨?_, ?_⟩
      · intro existing
        have hrestored := hmakes.1 existing
        exact ⟨hrestored.dated, ⟨hera, hera⟩, hrestored.readable⟩
      · intro l hl
        have hrestored := hmakes.2 l ⟨hl.dated, hl.readable⟩
        exact ⟨hrestored.dated, ⟨hl.inEra.published, hera⟩, hrestored.readable⟩
  | edit id submission editor =>
      intro x hx
      have hrestored := hmakes x ⟨hx.dated, hx.readable⟩
      exact ⟨hrestored.dated, ⟨hx.inEra.published, hera⟩, hrestored.readable⟩

omit [Ledger σ] in
/-- A property that a visitor's job keeps to is kept by the visit. -/
theorem bears_serve [Cabinet σ] {P : Record → Prop} (hP : Durable P) {r : Registry σ}
    (h : Cabinet.Bears P r.store) {v : Visit}
    (hm : ∀ i, (v.demand.request r.config r.validator).job.Makes P (v.clock i)) :
    Cabinet.Bears P (r.serve v).store := by
  have hstep : ∀ (i : Nat) (job : Job) (s : σ), (Cabinet.Bears P s ∧ job.Carries P ∧ ∀ i, job.Makes P (v.clock i)) →
      Cabinet.Bears P (job.turn (v.clock i) s).2 ∧ (job.turn (v.clock i) s).1.Carries P ∧
        ∀ j, (job.turn (v.clock i) s).1.Makes P (v.clock j) := by
    rintro i job s ⟨hs, hc, hm⟩
    obtain ⟨hs', hc'⟩ := hc.turn hP hs (hm i)
    exact ⟨hs', hc', fun j => (hm j).of_turn (v.clock i) s⟩
  obtain ⟨job, hs, -, -⟩ := serve_keeps hstep ⟨h, Job.carries_job _, hm⟩
  exact hs

/-- What is read of the row of a record, and that a filter selects it if it selects the row. -/
structure Reading (filter : Filter) (r x : Record) : Prop where
  record : (Row.ofRecord r).record? = .ok x
  imprint : x.imprint = r.imprint
  selected : (Row.ofRecord r).selectedBy filter = filter.selects x

/-- A row that has the document of a record that can be selected and read is read. -/
theorem exists_reading {r r' : Record} (hr : r.IsDated) (h : Placed r')
    (hdoc : (Row.ofRecord r).document = r'.text)
    (hf : ∀ since, filter.updatedSince = some since → since.IsReading ∧ since.InEra) :
    ∃ x, Reading filter r x := by
  obtain ⟨bag, hread, -⟩ := h.readable.reread
  have hx := Row.record?_of_text hdoc h.dated
  rw [hread] at hx
  have hshows := Row.shows_of_record? hr hx
  -- the instants are those in the document, whichever record has been written there
  have hregistration : r'.registration = r.registration := hshows.registration
  have hpublished : r'.publishedAt = r.publishedAt := congrArg Registration.publishedAt hregistration
  have hupdated : r'.updatedAt = r.updatedAt := congrArg Registration.updatedAt hregistration
  have hera : r.InEra := ⟨hpublished ▸ h.inEra.published, hupdated ▸ h.inEra.updated⟩
  refine ⟨_, hx, hshows.imprint, ?_⟩
  rw [Row.selectedBy_ofRecord hr hera (Row.isTangled_of_read rfl hx) hf, hshows.selects]

/-- If all rows of a table are read, it displays what is read of them. -/
theorem displays_readings {t : Rows} {read : Record → Record} (hopen : t.closed = false)
    (hrows : t.rows = rs.map Row.ofRecord) (hfew : rs.length ≤ Cursor.limit)
    (hread : ∀ r ∈ rs, Reading filter r (read r)) : Displays t filter (rs.map read) where
  isOpen := hopen
  selected := by
    have hnumbered : Memory.sequenced (rs.map read) =
        (Memory.sequenced rs).map fun a => (a.1, read a.2) := by
      rw [Memory.sequenced, Memory.sequenced, List.zipIdx_map, List.map_map, List.map_map]
      rfl
    have hmem : ∀ a ∈ Memory.sequenced rs, a.2 ∈ rs := fun a => Memory.snd_mem_of_mem_sequenced
    have hfilter : ((Memory.sequenced rs).filter fun a => (Row.ofRecord a.2).selectedBy filter) =
        (Memory.sequenced rs).filter fun a => filter.selects (read a.2) := by
      refine List.filter_congr ?_
      intro a ha
      exact (hread a.2 (hmem a ha)).selected
    have hshown : ∀ a ∈ (Memory.sequenced rs).filter fun a => filter.selects (read a.2),
        ((a.1, (Row.ofRecord a.2).shownBy filter) : Entry) = Entry.shown (a.1, read a.2) := by
      intro a ha
      rw [Row.shownBy_of_read rfl (hread a.2 (hmem a (List.mem_filter.1 ha).1)).record]
      rfl
    show ((Rows.sequenced t.rows).filter fun a => a.2.selectedBy filter).map
      (fun a => (a.1, a.2.shownBy filter)) = _
    rw [hrows, Rows.sequenced_map, hnumbered, List.filter_map, List.filter_map, List.map_map,
      List.map_map]
    refine (congrArg _ hfilter).trans ?_
    exact List.map_congr_left hshown
  few := by rwa [List.length_map]

/-- The table displays what it reads of its rows, if filters and records can be compared by their stamps
and bags can be read. -/
theorem keeper_rows (hnow : ∀ v ∈ visits, ∀ i, (v.clock i).now.IsReading)
    (hera : ∀ v ∈ visits, ∀ i, (v.clock i).now.InEra) (hbags : ∀ v ∈ visits, v.demand.bag.Readable)
    (hf : ∀ since, filter.updatedSince = some since → since.IsReading ∧ since.InEra) :
    Keeper (fun t : Rows => t.rows.map Row.record?) filter visits (Cabinet.Bears Placed) where
  displays {t rs past} h hfew hgood := by
    obtain ⟨hopen, hrows⟩ := h.keeps
    have hdocs : ∀ row ∈ t.rows, ∃ r, Placed r ∧ row.document = r.text := hgood.2
    have hread : ∀ r : Record, ∃ x, r ∈ rs → Reading filter r x := by
      intro r
      by_cases hr : r ∈ rs
      · have hmem : Row.ofRecord r ∈ t.rows := by
          rw [hrows]
          exact List.mem_map_of_mem hr
        obtain ⟨r', hplaced, hdoc⟩ := hdocs _ hmem
        obtain ⟨x, hx⟩ := exists_reading (h.dated r hr) hplaced hdoc hf
        exact ⟨x, fun _ => hx⟩
      · exact ⟨r, fun hmem => absurd hmem hr⟩
    choose read hread using hread
    refine ⟨rs.map read, ?_, ?_, displays_readings hopen hrows (Nat.le_trans h.few hfew) hread⟩
    · rw [hrows, List.map_map, List.map_map]
      refine List.map_congr_left ?_
      intro r hr
      rw [Function.comp_apply, Function.comp_apply, (hread r hr).record]
    · rw [List.map_map]
      refine List.map_congr_left ?_
      intro r hr
      rw [Function.comp_apply, (hread r hr).imprint]
  serve {r v} hv h :=
    bears_serve durable_placed h fun i => makes_placed (hnow v hv i) (hera v hv i) (hbags v hv)

/-! ### Both -/

/-- **What the pages of a list and of a table show** that are fetched while others write, after any visits
from the opening on: the records selected, in ascending order, and none that was selected all the time is
left out.  A table has to be able to compare instants by their stamps and to read all bags. -/
theorem roam_tour (config : Config) (validator : Manifest.Validator) (events : Broadcast Event)
    {before : List Visit} {rounds : List Round}
    (hp : Visits.Proper (before ++ rounds.flatMap Round.visits)) (filter : Filter) (limit : Nat) :
    (let r := serveAll ⟨config, validator, ({} : Memory), events⟩ before;
      ∃ fs, Tour (fun m : Memory => m.records.map .ok) config filter limit r.store rounds
        (r.roam filter limit none rounds) fs) ∧
    ((∀ v ∈ before ++ rounds.flatMap Round.visits, ∀ i, (v.clock i).now.InEra) →
      (∀ v ∈ before ++ rounds.flatMap Round.visits, v.demand.bag.Readable) →
      (∀ since, filter.updatedSince = some since → since.IsReading ∧ since.InEra) →
      let r := serveAll ⟨config, validator, ({} : Rows), events⟩ before;
      ∃ fs, Tour (fun t : Rows => t.rows.map Row.record?) config filter limit r.store rounds
        (r.roam filter limit none rounds) fs) := by
  have hlater : ∀ v ∈ rounds.flatMap Round.visits, v ∈ before ++ rounds.flatMap Round.visits :=
    fun v hv => List.mem_append_right _ hv
  have hearlier : ∀ v ∈ before, v ∈ before ++ rounds.flatMap Round.visits :=
    fun v hv => List.mem_append_left _ hv
  constructor
  · let opening : Registry Memory := ⟨config, validator, {}, events⟩
    have hopening : Lasting opening.store [] [] := lasting_opening Memory.keeps_empty
    obtain ⟨rs, h, -⟩ := hopening.serveAll hp.left
    have htour := (keeper_memory filter (before ++ rounds.flatMap Round.visits)).tour h trivial hp
      hlater limit
    rwa [config_serveAll] at htour
  · intro hera hbags hf
    let opening : Registry Rows := ⟨config, validator, {}, events⟩
    have hopening : Lasting opening.store [] [] := lasting_opening Rows.keeps_empty
    obtain ⟨rs, h, -⟩ := hopening.serveAll hp.left
    have hk := keeper_rows hp.readings hera hbags hf
    have hempty : Cabinet.Bears Placed opening.store := ⟨rfl, fun r hr => absurd hr List.not_mem_nil⟩
    have htour := hk.tour h (hk.serveAll hearlier hempty) hp hlater limit
    rwa [config_serveAll] at htour

/-- A publish of a version of a server at the epoch, with a double in its bag and offered a number as an
identity. -/
def arrival (name version : String) (number : Nat) : Visit where
  clock _ := ⟨.epoch, ⟨number⟩⟩
  demand := .publish
    { manifest := { Race.manifest version "" with name }, bag := Bag.weights } { subject := "s" }

/-- Four fetches; before the second one a new version takes the place of the one shown first. -/
def fetches : List Round :=
  [⟨[], .epoch⟩, ⟨[arrival "a/b" "2.0.0" 2], .epoch⟩, ⟨[], .epoch⟩, ⟨[], .epoch⟩]

/-- One by one the latest versions are shown, the new one of the first server behind that of the
second. -/
theorem roam_tour_fetches :
    let before := [arrival "a/b" "1.0.0" 0, arrival "c/d" "1.0.0" 1]
    Visits.Proper (before ++ fetches.flatMap Round.visits) ∧
    (∀ v ∈ before ++ fetches.flatMap Round.visits, ∀ i, (v.clock i).now.InEra) ∧
    (∀ v ∈ before ++ fetches.flatMap Round.visits, v.demand.bag.Readable) ∧
    (let r := serveAll ⟨{}, fun _ => none, ({} : Memory), { room := 1 }⟩ before;
      (r.roam { isLatest := some true } 1 none fetches).map
        (fun x => x.2.toOption.map fun page => page.items.map fun r => (r.name, r.version)) =
          [some [("a/b", "1.0.0")], some [("c/d", "1.0.0")], some [("a/b", "2.0.0")], some []] ∧
      ∃ fs, Tour (fun m : Memory => m.records.map .ok) {} { isLatest := some true } 1 r.store fetches
        (r.roam { isLatest := some true } 1 none fetches) fs) ∧
    (let r := serveAll ⟨{}, fun _ => none, ({} : Rows), { room := 1 }⟩ before;
      ∃ fs, Tour (fun t : Rows => t.rows.map Row.record?) {} { isLatest := some true } 1 r.store fetches
        (r.roam { isLatest := some true } 1 none fetches) fs) := by
  intro before
  have hvisits : before ++ fetches.flatMap Round.visits =
    [arrival "a/b" "1.0.0" 0, arrival "c/d" "1.0.0" 1, arrival "a/b" "2.0.0" 2] := rfl
  have hone : ∀ v ∈ before ++ fetches.flatMap Round.visits,
      ∃ name version number, v = arrival name version number := by
    intro v hv
    simp only [hvisits, List.mem_cons, List.not_mem_nil, or_false] at hv
    rcases hv with rfl | rfl | rfl <;> exact ⟨_, _, _, rfl⟩
  have hp : Visits.Proper (before ++ fetches.flatMap Round.visits) := by
    refine ⟨?_, ?_, by decide⟩
    · intro v hv i
      obtain ⟨name, version, number, rfl⟩ := hone v hv
      show Instant.epoch.IsReading
      decide
    · rw [hvisits]
      simp [arrival]
  have hera : ∀ v ∈ before ++ fetches.flatMap Round.visits, ∀ i, (v.clock i).now.InEra := by
    intro v hv i
    obtain ⟨name, version, number, rfl⟩ := hone v hv
    show Instant.epoch.InEra
    decide
  have hbags : ∀ v ∈ before ++ fetches.flatMap Round.visits, v.demand.bag.Readable := by
    intro v hv
    obtain ⟨name, version, number, rfl⟩ := hone v hv
    exact Bag.lossless_weights.readable
  obtain ⟨hlist, htable⟩ := roam_tour {} (fun _ => none) { room := 1 } hp { isLatest := some true } 1
  refine ⟨hp, hera, hbags, ⟨by decide +kernel, hlist⟩, htable hera hbags ?_⟩
  intro since hsince
  cases hsince

end Registry

end ManifestRegistry
