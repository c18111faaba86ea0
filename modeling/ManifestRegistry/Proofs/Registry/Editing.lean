/-
**An edit changes one version and nothing else.**

Whoever edits a version and is answered with a record has changed what is stored in one place, where the
version stands: the record there is the one that was answered, with the manifest that was asked for, the time
of a call of the edit and, unless it is empty, the bag.  Whoever is refused has changed nothing, and listeners
hear nothing of it.  A table that keeps part of a record in columns which no edit writes is no exception, as
those columns hold what an edit leaves as it is.

Main definitions:

* `Service.Edit.Revises` — **what an edit makes of a version**;
* `Service.Edit.Frames` — what an edit may come to, and what it leaves as it is.

Main results:

* `Service.Machine.runAt_congr` — a task looks at the clock once for each of its calls;
* `Registry.legible_serveAll` — visits that bring legible bags leave legible bags;
* `Registry.edit_frames` — **an edit after any visits changes its version only**, in a list and in a table.
-/

import ManifestRegistry.Proofs.Registry.Receipts

set_option relaxedAutoImplicit false
set_option autoImplicit false

namespace ManifestRegistry

open Service Storage

/-! ### What an edit changes -/

namespace Service.Edit

/-- What an edit makes of a version at some time. -/
structure Revises (e : Edit) (now : Instant) (old new : Record) : Prop where
  manifest : new.manifest = e.manifest
  updatedAt : new.updatedAt = now
  /-- An empty bag leaves the stored one in place. -/
  bag : new.bag = if e.submission.bag = [] then old.bag else e.submission.bag
  id : new.id = old.id
  name : new.name = old.name
  version : new.version = old.version
  publishedAt : new.publishedAt = old.publishedAt
  releaseDate : new.registration.releaseDate = old.registration.releaseDate
  isLatest : new.isLatest = old.isLatest
  publishedBy : new.publishedBy = old.publishedBy

/-- What an edit of at most so many calls may come to, the records `rs'` after it if `rs` were stored before,
and what listeners have been told before and after. -/
structure Frames (e : Edit) (clock : Nat → Moment) (most : Nat) (rs : List Record)
    (before : Broadcast Event) (outcome : Outcome Record) (rs' : List Record)
    (after : Broadcast Event) : Prop where
  refused : ∀ stop, outcome = .error stop → rs' = rs ∧ after = before
  /-- The version stands in one place, and there the record that is answered takes its place. -/
  accepted : ∀ new, outcome = .ok new → ∃ k old, rs[k]? = some old ∧
    old.isVersion e.id e.manifest.version = true ∧
    (∀ j r, rs[j]? = some r → r.isVersion e.id e.manifest.version = true → j = k) ∧
    (∃ i < most, e.Revises (clock i).now old new) ∧ rs' = rs.set k new ∧
    after = before.send (.edited e.id new.name new.version e.editor.subject)

section

variable {e : Edit} {now : Instant} {r new x : Record} {rs rs' : List Record}

theorem revises_edited (hv : r.isVersion e.id e.manifest.version = true) (hn : r.name = e.manifest.name) :
    e.Revises now r (e.edited now r) where
  manifest := rfl
  updatedAt := rfl
  bag := by
    rw [edited]
    cases e.submission.bag <;> rfl
  id := rfl
  name := hn.symm
  version := (Record.isVersion_iff.1 hv).2.symm
  publishedAt := rfl
  releaseDate := rfl
  isLatest := rfl
  publishedBy := rfl

theorem Revises.isDated (h : e.Revises now r new) (hr : r.IsDated) (hnow : now.IsReading) :
    new.IsDated where
  published := h.publishedAt.symm.subst (motive := Instant.IsReading) hr.published
  updated := h.updatedAt.symm.subst (motive := Instant.IsReading) hnow
  released i hi := hr.released i (h.releaseDate ▸ hi)

theorem Revises.bag_cases (h : e.Revises now r new) : new.bag = r.bag ∨ new.bag = e.submission.bag := by
  rw [h.bag]
  split
  · exact .inl rfl
  · exact .inr rfl

theorem Frames.mem {clock : Nat → Moment} {most : Nat} {before after : Broadcast Event}
    {outcome : Outcome Record} (h : e.Frames clock most rs before outcome rs' after) (hx : x ∈ rs') :
    x ∈ rs ∨ ∃ old ∈ rs, ∃ i, e.Revises (clock i).now old x := by
  cases outcome with
  | error stop => exact .inl ((h.refused stop rfl).1 ▸ hx)
  | ok new =>
      obtain ⟨k, old, hold, -, -, ⟨i, -, hrevises⟩, rfl, -⟩ := h.accepted new rfl
      rcases List.mem_or_eq_of_mem_set hx with hx | rfl
      · exact .inl hx
      · exact .inr ⟨old, List.mem_of_getElem? hold, i, hrevises⟩

end

end Service.Edit

/-! ### The clock of a task -/

/-- Of two clocks that show the same for all calls of a task either will do. -/
theorem Service.Machine.runAt_congr {τ ρ α : Type} (m : Machine τ ρ)
    (call : Instant → (c : Call) → α → Reply c.Answer × α) {clock clock' : Nat → Moment}
    (rounds made : Nat) (h : ∀ i < rounds, clock (made + i) = clock' (made + i))
    (progress : Progress τ ρ) (s : α) :
    m.runAt call clock rounds made progress s = m.runAt call clock' rounds made progress s := by
  induction rounds generalizing made progress s with
  | zero => cases progress <;> rfl
  | succ rounds ih =>
      cases progress with
      | finished r => rfl
      | running state =>
          have hfirst : clock made = clock' made := h 0 (Nat.succ_pos rounds)
          have hrest : ∀ i < rounds, clock (made + 1 + i) = clock' (made + 1 + i) := by
            intro i hi
            have hnext := h (i + 1) (Nat.succ_lt_succ hi)
            rwa [← Nat.add_assoc, Nat.add_right_comm] at hnext
          rw [Machine.runAt, Machine.runAt, hfirst]
          exact ih (made + 1) hrest _ _

namespace Registry

/-- An edit looks at no moment after those of the calls that it may make. -/
theorem editAt_congr {σ : Type} [PacedStore σ] (r : Registry σ) {clock clock' : Nat → Moment} (id : Uuid)
    (submission : Submission) (editor : Publisher)
    (h : ∀ i < Edit.rounds ⟨r.config, r.validator, id, submission, editor⟩ (PacedStore.size r.store),
      clock i = clock' i) :
    r.editAt clock id submission editor = r.editAt clock' id submission editor := by
  rw [editAt, editAt, change_eq, change_eq, Machine.runAt_congr]
  intro i hi
  rw [Nat.zero_add]
  exact h i hi

/-! ### Legible bags -/

section

variable {σ : Type} [Store σ] [Ledger σ] {rs : List Record} {past : List Visit} {r : Registry σ}

/-- **Visits that bring legible bags leave legible bags.** -/
theorem legible_serveAll (h : Lasting r.store rs past) (hleg : ∀ x ∈ rs, Ledger.Legible σ x.bag)
    {vs : List Visit} (hread : ∀ v ∈ vs, ∀ i, (v.clock i).now.IsReading)
    (hfresh : (past ++ vs).Pairwise fun u v => ∀ i j, (u.clock i).freshId ≠ (v.clock j).freshId)
    (hbags : ∀ v ∈ vs, Ledger.Legible σ v.demand.bag) :
    ∃ rs', Lasting (r.serveAll vs).store rs' (past ++ vs) ∧ ∀ x ∈ rs', Ledger.Legible σ x.bag := by
  induction vs generalizing r rs past with
  | nil =>
      rw [List.append_nil]
      exact ⟨rs, h, hleg⟩
  | cons v vs ih =>
      have hnew : ∀ i, ¬Visits.Offered past (v.clock i).freshId :=
        Visits.not_offered hfresh List.mem_cons_self
      obtain ⟨h', hreceipt⟩ := entry_writes h hleg (hread v List.mem_cons_self) hnew
      -- a bag that is stored came with the visit or was stored before
      have hleg' : ∀ x ∈ (r.entry v).write rs, Ledger.Legible σ x.bag := by
        intro x hx
        rcases Entry.bag_of_mem_write hx with ⟨y, hy, hbag⟩ | hanswer
        · exact hbag ▸ hleg y hy
        · rcases hreceipt.bag x hanswer with hbag | ⟨y, hy, hbag⟩
          · exact hbag ▸ hbags v List.mem_cons_self
          · exact hbag ▸ hleg y hy
      have hsplit : past ++ v :: vs = past ++ [v] ++ vs := by simp
      rw [hsplit] at hfresh ⊢
      exact ih h' hleg' (fun u hu => hread u (List.mem_cons_of_mem _ hu)) hfresh
        fun u hu => hbags u (List.mem_cons_of_mem _ hu)

/-! ### One edit -/

/-- What comes of an edit whose version is read as it is stored changes this version only. -/
theorem frames_of_upshot {e : Edit} {clock : Nat → Moment} {most : Nat} {change : Change}
    {rs' : List Record} {s : σ} (hd : Distinct (rs.map Record.imprint))
    (hleg : ∀ x ∈ rs, Ledger.Legible σ x.bag) (hupshot : Upshot σ clock rs (.edit e) change rs')
    {clock' : Nat → Moment} (hclock : ∀ i, ∃ j < most, clock i = clock' j) :
    e.Frames clock' most rs r.events (r.concluded s change).1 rs' (r.concluded s change).2.events := by
  cases hupshot with
  | refused _ stop => exact ⟨fun _ _ => ⟨rfl, rfl⟩, fun _ h => nomatch h⟩
  | @edited _ i x old k hold hshows hv hn =>
      obtain rfl := hshows.eq (hleg old (List.mem_of_getElem? hold))
      obtain ⟨j, hj, hmoment⟩ := hclock i
      obtain ⟨place, hplace, -⟩ := hd.exists_place (List.mem_of_getElem? hold) hv
      obtain rfl := hd.eq_place hplace hold hv
      refine ⟨fun _ h => (nomatch h), ?_⟩
      rintro new ⟨⟩
      refine ⟨k, x, hold, hv, fun _ _ hr hrv => hd.eq_place hplace hr hrv, ⟨j, hj, ?_⟩, rfl, rfl⟩
      rw [hmoment]
      exact Edit.revises_edited hv hn

/-- **An edit between two visits changes its version only.** -/
theorem Lasting.frames (h : Lasting r.store rs past) (hleg : ∀ x ∈ rs, Ledger.Legible σ x.bag)
    {clock : Nat → Moment} (hread : ∀ i, (clock i).now.IsReading) (id : Uuid) (submission : Submission)
    (editor : Publisher) :
    let e : Edit := ⟨r.config, r.validator, id, submission, editor⟩
    let after := r.editAt clock id submission editor
    ∃ rs', Ledger.Keeps after.2.store rs' ∧
      e.Frames clock (e.rounds (PacedStore.size r.store)) rs r.events after.1 rs' after.2.events := by
  intro e after
  -- a clock that stands still after the last call shows none but the moments of calls
  let most := e.rounds (PacedStore.size r.store)
  have hmost : 0 < most := Nat.succ_pos _
  let stopped : Nat → Moment := fun i => clock (min i (most - 1))
  have hsame : after = r.editAt stopped id submission editor := by
    refine r.editAt_congr id submission editor fun i hi => ?_
    show clock i = clock (min i (most - 1))
    rw [Nat.min_eq_left (Nat.le_sub_one_of_lt hi)]
  obtain ⟨s, rs', hk, hupshot, hvisit⟩ := visited_upshot (v := ⟨stopped, .edit id submission editor⟩)
    h.keeps h.distinct h.dated fun i => hread _
  have hafter : after = r.concluded s (r.account ⟨stopped, .edit id submission editor⟩) :=
    hsame.trans hvisit
  refine ⟨rs', ?_, ?_⟩
  · rwa [hafter, concluded_store]
  · rw [hafter]
    refine frames_of_upshot h.distinct hleg hupshot fun i => ⟨min i (most - 1), ?_, rfl⟩
    exact Nat.lt_of_le_of_lt (Nat.min_le_right _ _) (Nat.sub_one_lt_of_lt hmost)

end

/-- **An edit after any visits changes its version only**, in a list as well as in a table, which reads each
of its rows as the record that is stored. -/
theorem edit_frames (config : Config) (validator : Manifest.Validator) (events : Broadcast Event)
    {visits : List Visit} (hread : ∀ v ∈ visits, ∀ i, (v.clock i).now.IsReading)
    (hfresh : visits.Pairwise fun u v => ∀ i j, (u.clock i).freshId ≠ (v.clock j).freshId)
    {clock : Nat → Moment} (hnow : ∀ i, (clock i).now.IsReading) (id : Uuid) (submission : Submission)
    (editor : Publisher) :
    let e : Edit := ⟨config, validator, id, submission, editor⟩
    (let r : Registry Memory := serveAll ⟨config, validator, {}, events⟩ visits
      let after := r.editAt clock id submission editor
      e.Frames clock (e.rounds r.store.records.length) r.store.records r.events after.1
        after.2.store.records after.2.events) ∧
    ((∀ v ∈ visits, v.demand.bag.Lossless) →
      let r : Registry Rows := serveAll ⟨config, validator, {}, events⟩ visits
      let after := r.editAt clock id submission editor
      ∃ rs rs', r.store.rows = rs.map Row.ofRecord ∧ r.store.rows.map Row.record? = rs.map .ok ∧
        after.2.store.rows = rs'.map Row.ofRecord ∧
        (submission.bag.Lossless → after.2.store.rows.map Row.record? = rs'.map .ok) ∧
        e.Frames clock (e.rounds rs.length) rs r.events after.1 rs' after.2.events) := by
  intro e
  refine ⟨?_, fun hbags => ?_⟩
  · obtain ⟨rs, h, -⟩ := legible_serveAll (r := (⟨config, validator, {}, events⟩ : Registry Memory))
      (lasting_opening Memory.keeps_empty) (fun _ h => nomatch h) hread hfresh fun _ _ => trivial
    obtain ⟨rs', ⟨-, hrs'⟩, hframes⟩ := h.frames (fun _ _ => trivial) hnow id submission editor
    obtain ⟨-, hrs⟩ := h.keeps
    rw [config_serveAll, validator_serveAll] at hframes
    subst hrs hrs'
    exact hframes
  · obtain ⟨rs, h, hleg⟩ := legible_serveAll (r := (⟨config, validator, {}, events⟩ : Registry Rows))
      (lasting_opening Rows.keeps_empty) (fun _ h => nomatch h) hread hfresh hbags
    obtain ⟨rs', ⟨-, hrs'⟩, hframes⟩ := h.frames hleg hnow id submission editor
    rw [config_serveAll, validator_serveAll] at hframes
    obtain ⟨-, hrows⟩ := h.keeps
    have hsize : PacedStore.size (serveAll ⟨config, validator, ({} : Rows), events⟩ visits).store =
        rs.length := by
      show List.length _ = _
      rw [hrows, List.length_map]
    rw [hsize] at hframes
    have hread := (Rows.intact_of_lossless h.dated hleg).map_record?
    refine ⟨rs, rs', hrows, hrows ▸ hread, hrs', fun hbag => ?_, hframes⟩
    rw [hrs']
    refine (Rows.intact_of_lossless (fun x hx => ?_) fun x hx => ?_).map_record?
    · rcases hframes.mem hx with hx | ⟨old, hold, i, hrevises⟩
      · exact h.dated x hx
      · exact hrevises.isDated (h.dated old hold) (hnow i)
    · rcases hframes.mem hx with hx | ⟨old, hold, i, hrevises⟩
      · exact hleg x hx
      · rcases hrevises.bag_cases with hsame | hsame
        · exact hsame ▸ hleg old hold
        · exact hsame ▸ hbag

/-- A version in the middle, edited a minute later by somebody else, who brings a bag with a double. -/
def amendment : Submission := ⟨Race.manifest "2.0.0" "e", Bag.weights⟩

/-- The edit puts its manifest and its bag in place between two versions that it leaves alone. -/
theorem edit_frames_deliveries :
    let visits := deliveries
    let minute : Moment := ⟨(Instant.ofParts? 60 0).getD .epoch, ⟨9⟩⟩
    let e : Edit := ⟨{}, fun _ => none, ⟨1⟩, amendment, { subject := "u" }⟩
    ((∀ v ∈ visits, ∀ i, (v.clock i).now.IsReading) ∧
      (visits.Pairwise fun u v => ∀ i j, (u.clock i).freshId ≠ (v.clock j).freshId) ∧
      minute.now.IsReading) ∧
    (let r : Registry Memory := serveAll ⟨{}, fun _ => none, {}, { room := 1 }⟩ visits
      let after := r.editAt (fun _ => minute) ⟨1⟩ amendment { subject := "u" }
      after.2.store.records.map (fun r => (r.version, r.manifest.description, r.bag.length, r.isLatest,
          r.publishedAt.seconds, r.updatedAt.seconds)) =
        [("1.0.0", "", 0, false, 0, 0), ("2.0.0", "e", 1, true, 0, 60), ("1.5.0", "", 0, false, 0, 0)] ∧
      e.Frames (fun _ => minute) (e.rounds r.store.records.length) r.store.records r.events after.1
        after.2.store.records after.2.events) ∧
    (∀ v ∈ visits, v.demand.bag.Lossless) ∧
    (let r : Registry Rows := serveAll ⟨{}, fun _ => none, {}, { room := 1 }⟩ visits
      let after := r.editAt (fun _ => minute) ⟨1⟩ amendment { subject := "u" }
      ∃ rs rs', r.store.rows = rs.map Row.ofRecord ∧ r.store.rows.map Row.record? = rs.map .ok ∧
        after.2.store.rows = rs'.map Row.ofRecord ∧
        after.2.store.rows.map Row.record? = rs'.map .ok ∧
        e.Frames (fun _ => minute) (e.rounds rs.length) rs r.events after.1 rs' after.2.events) := by
  intro visits minute e
  have hminute : minute.now.IsReading := by decide
  have hepoch : Instant.epoch.IsReading := by decide
  have hvisits : ∀ v ∈ visits, (∀ i, (v.clock i).now = .epoch) ∧ v.demand.bag = [] := by
    intro v hv
    simp only [visits, deliveries, List.mem_cons, List.not_mem_nil, or_false] at hv
    rcases hv with rfl | rfl | rfl | rfl | rfl <;> exact ⟨fun _ => rfl, rfl⟩
  have hread : ∀ v ∈ visits, ∀ i, (v.clock i).now.IsReading := fun v hv i =>
    ((hvisits v hv).1 i).symm ▸ hepoch
  have hfresh : visits.Pairwise fun u v => ∀ i j, (u.clock i).freshId ≠ (v.clock j).freshId := by
    simp [visits, deliveries, delivery]
  have hbags : ∀ v ∈ visits, v.demand.bag.Lossless := by
    intro v hv
    rw [(hvisits v hv).2]
    rfl
  obtain ⟨hlist, htable⟩ := edit_frames {} (fun _ => none) { room := 1 } hread hfresh
    (fun _ => hminute) ⟨1⟩ amendment { subject := "u" }
  obtain ⟨rs, rs', hrows, hbefore, hrows', hafter, hframes⟩ := htable hbags
  exact ⟨⟨hread, hfresh, hminute⟩, ⟨by decide +kernel, hlist⟩, hbags, rs, rs', hrows, hbefore, hrows',
    hafter Bag.lossless_weights, hframes⟩

end Registry

end ManifestRegistry
