/-
**What has changed since a moment.**

Whoever has seen what is stored, and comes back with the latest moment seen, walks through the records
changed behind it.  Every write stamps what it writes, with a reading of the clock, and nothing else: so the
pages show the versions that were created or edited meanwhile and those that lost their flag, each of them
once and as it is now, and no other.  A table shows this much if it can compare moments by their stamps and
can read all bags.

Main definitions:

* `Registry.Touches`, `Registry.Touched` — **a version that a visit, or one of some visits, has created,
  edited or demoted**;
* `Registry.Caught` — what is claimed of the pages of who comes back;
* `Registry.Marks` — the versions marked by what comes of a request;
* `Registry.Stamped` — the records changed behind a moment are those of some versions;
* `Registry.Reader` — a way to read a store that shows the records it keeps.

Main results:

* `Registry.stamps_of_upshot` — **what comes of a request stamps what it marks, and nothing else**;
* `Registry.Keeper.stamped_serveAll` — so do visits;
* `Registry.Displays.walk` — a walk shows what its filter selects;
* `Registry.walk_touched` — **the pages of a list and of a table**.
-/

import ManifestRegistry.Proofs.Registry.Tours
import ManifestRegistry.Proofs.Registry.Upshots

set_option relaxedAutoImplicit false
set_option autoImplicit false

namespace ManifestRegistry

open Service Storage

/-- The name of a record and its version, which no two stored records share. -/
def Record.title (r : Record) : String × String := (r.name, r.version)

theorem Record.title_eq_of_imprint {r s : Record} (h : r.imprint = s.imprint) : r.title = s.title :=
  Prod.ext (congrArg Imprint.name h) (congrArg Imprint.version h)

theorem Distinct.eq_of_title {rs : List Record} (h : Distinct (rs.map Record.imprint)) {r s : Record}
    (hr : r ∈ rs) (hs : s ∈ rs) (he : r.title = s.title) : r = s := by
  obtain ⟨i, hi⟩ := List.mem_iff_getElem?.1 hr
  obtain ⟨j, hj⟩ := List.mem_iff_getElem?.1 hs
  obtain ⟨hname, hversion⟩ := Prod.mk.inj he
  obtain rfl : i = j := h.versions (a := r.imprint) (b := s.imprint) (by simp [hi]) (by simp [hj])
    hname hversion
  exact Option.some_inj.1 (hi.symm.trans hj)

theorem Distinct.nodup_title {rs : List Record} (h : Distinct (rs.map Record.imprint)) :
    (rs.map Record.title).Nodup := by
  rw [List.Nodup, List.pairwise_map, List.pairwise_iff_getElem]
  intro i j hi hj hless he
  obtain ⟨hname, hversion⟩ := Prod.mk.inj he
  have hsame : i = j := h.versions (a := rs[i].imprint) (b := rs[j].imprint) (by simp [hi])
    (by simp [hj]) hname hversion
  omega

/-- What is read of a stored record was changed when the record was. -/
theorem Storage.Shows.updatedAt {legible : Bag → Prop} {x r : Record} (h : Shows legible x r) :
    x.updatedAt = r.updatedAt := congrArg Registration.updatedAt h.registration

namespace Registry

/-! ### Versions that visits touch -/

section

variable {σ : Type} [PacedStore σ]

/-- A version that a visit creates, edits or demotes; `entries` tells what is read of a store. -/
inductive Touches (entries : σ → List (Except StorageError Record)) (r : Registry σ) (v : Visit)
    (title : String × String) : Prop
  /-- A publish is answered with it. -/
  | created {submission : Submission} {publisher : Publisher} {record : Record}
      (demand : v.demand = .publish submission publisher) (answer : (r.visited v).1 = .ok record)
      (title : record.title = title)
  /-- An edit is answered with it. -/
  | edited {id : Uuid} {submission : Submission} {editor : Publisher} {record : Record}
      (demand : v.demand = .edit id submission editor) (answer : (r.visited v).1 = .ok record)
      (title : record.title = title)
  /-- It was flagged before the visit and is not any more. -/
  | demoted {x y : Record} (before : .ok x ∈ entries r.store) (after : .ok y ∈ entries (r.serve v).store)
      (titles : x.title = title ∧ y.title = title) (flags : x.isLatest = true ∧ y.isLatest = false)

/-- A version that one of some visits, made one after the other, creates, edits or demotes. -/
def Touched (entries : σ → List (Except StorageError Record)) :
    Registry σ → List Visit → String × String → Prop
  | _, [], _ => False
  | r, v :: vs, title => r.Touches entries v title ∨ Touched entries (r.serve v) vs title

end

/-- What is claimed of pages that show what was touched, when a store is left. -/
structure Caught {σ : Type} (entries : σ → List (Except StorageError Record)) (s : σ)
    (touched : String × String → Prop) (pages : List (List Record)) : Prop where
  /-- They show records as they are read now, in their order. -/
  current : ∃ stored : List Record, entries s = stored.map .ok ∧ pages.flatten.Sublist stored
  /-- No version is shown twice. -/
  once : (pages.flatten.map Record.title).Nodup
  /-- What is shown was touched, and what was touched is shown. -/
  exact : ∀ title, title ∈ pages.flatten.map Record.title ↔ touched title

/-! ### Versions that a request marks -/

/-- The versions marked by what comes of a request: the one that it is answered with, and those that have
lost their flag. -/
def Marks (change : Change) (rs rs' : List Record) (title : String × String) : Prop :=
  (∃ record events, change = .ok (record, events) ∧ record.title = title) ∨
    ∃ x ∈ rs, ∃ y ∈ rs', (x.title = title ∧ y.title = title) ∧ x.isLatest = true ∧ y.isLatest = false

/-- The records changed behind a moment are those of some versions, all of them stored. -/
structure Stamped (since : Instant) (rs : List Record) (touched : String × String → Prop) : Prop where
  later : ∀ x ∈ rs, since.before x.updatedAt = true ↔ touched x.title
  stored : ∀ title, touched title → ∃ x ∈ rs, x.title = title

theorem stamped_opening {since : Instant} {rs : List Record}
    (h : ∀ x ∈ rs, since.before x.updatedAt = false) : Stamped since rs fun _ => False where
  later x hx := by simp [h x hx]
  stored _ h := h.elim

theorem Stamped.congr {since : Instant} {rs : List Record} {touched touched' : String × String → Prop}
    (h : Stamped since rs touched) (hsame : ∀ title, touched title ↔ touched' title) :
    Stamped since rs touched' where
  later x hx := (h.later x hx).trans (hsame _)
  stored title hl := h.stored title ((hsame title).2 hl)

section

variable {since : Instant} {rs rs' : List Record} {change : Change}
  {touched : String × String → Prop}

/-- If a change leaves records alone or stamps and marks them, those changed behind the moment are still
those of the versions touched. -/
theorem Stamped.marks (h : Stamped since rs touched) (hd : Distinct (rs.map Record.imprint))
    (hd' : Distinct (rs'.map Record.imprint))
    (hkept : ∀ x ∈ rs, ∃ y ∈ rs', y.title = x.title)
    (hanswer : ∀ record events, change = .ok (record, events) →
      record ∈ rs' ∧ since.before record.updatedAt = true)
    (hrest : ∀ x ∈ rs', x ∈ rs ∨ since.before x.updatedAt = true ∧ Marks change rs rs' x.title) :
    Stamped since rs' fun title => touched title ∨ Marks change rs rs' title where
  later x hx := by
    by_cases hmade : ∃ events, change = .ok (x, events)
    · obtain ⟨events, hchange⟩ := hmade
      have hmarked : Marks change rs rs' x.title := .inl ⟨x, events, hchange, rfl⟩
      simp [(hanswer x events hchange).2, hmarked]
    · rcases hrest x hx with hold | ⟨hlater, hmarked⟩
      · -- what was there before and is not the answer has not been marked
        have hunmarked : ¬Marks change rs rs' x.title := by
          rintro (⟨record, events, hchange, htitle⟩ | ⟨y, hy, z, hz, ⟨hyl, hzl⟩, hflag, hno⟩)
          · obtain rfl := hd'.eq_of_title (hanswer record events hchange).1 hx htitle
            exact hmade ⟨events, hchange⟩
          · obtain rfl := hd.eq_of_title hy hold hyl
            obtain rfl := hd'.eq_of_title hz hx hzl
            rw [hflag] at hno
            cases hno
        simp [h.later x hold, hunmarked]
      · simp [hlater, hmarked]
  stored title hl := by
    rcases hl with hl | ⟨record, events, hchange, htitle⟩ | ⟨-, -, y, hy, ⟨-, hyl⟩, -⟩
    · obtain ⟨x, hx, rfl⟩ := h.stored title hl
      exact hkept x hx
    · exact ⟨record, (hanswer record events hchange).1, htitle⟩
    · exact ⟨y, hy, hyl⟩

end

section

variable {σ : Type} [Store σ] [Ledger σ] {rs rs' : List Record} {v : Visit} {past : List Visit} {s : σ}
  {since : Instant} {touched : String × String → Prop} {request : Request} {change : Change}

theorem exists_title_of_upshot {clock : Nat → Moment} (h : Upshot σ clock rs request change rs')
    (hd : Distinct (rs.map Record.imprint)) : ∀ x ∈ rs, ∃ y ∈ rs', y.title = x.title := by
  have hsub : rs.map Record.imprint ⊆ rs'.map Record.imprint := by
    rcases h.map_imprint hd with he | ⟨p, i, existing, -, -, he⟩
    · rw [he]
      exact List.Subset.refl _
    · rw [he]
      exact List.subset_append_left _ _
  intro x hx
  obtain ⟨y, hy, himprint⟩ := List.mem_map.1 (hsub (List.mem_map_of_mem hx))
  exact ⟨y, hy, Record.title_eq_of_imprint himprint⟩

/-- What is demoted has lost the flag of a stored version. -/
theorem marks_demotion {p : Publish} {moment : Moment} {existing : List Record} {d : Record}
    (hcopies : Copies (Ledger.Legible σ) rs p.manifest.name existing)
    (hdem : p.demotion moment existing = some d) (hmem : d ∈ rs') : Marks change rs rs' d.title := by
  obtain ⟨l, hl, hlf, rfl, -, -⟩ := Publish.demotion_eq_some hdem
  obtain ⟨r, hr, hshows, -⟩ := hcopies l hl
  exact .inr ⟨r, hr, _, hmem, ⟨(Record.title_eq_of_imprint hshows.imprint).symm, rfl⟩,
    hshows.isLatest.symm.trans hlf, rfl⟩

/-- **What comes of a request stamps what it marks, and nothing else**: its answer is stored with a reading
of the clock, and whatever is stored was there before or is marked and has such a stamp. -/
theorem stamps_of_upshot {clock : Nat → Moment} (h : Upshot σ clock rs request change rs') :
    (∀ record events, change = .ok (record, events) →
      record ∈ rs' ∧ ∃ i, record.updatedAt = (clock i).now) ∧
    ∀ x ∈ rs', x ∈ rs ∨ (∃ i, x.updatedAt = (clock i).now) ∧ Marks change rs rs' x.title := by
  cases h with
  | refused stop => exact ⟨fun _ _ h => (nomatch h), fun x hx => .inl hx⟩
  | published p i existing granted copies committed =>
      obtain ⟨-, rs₁, hdem, hins⟩ := Memory.committed_eq_ok.1 committed
      obtain ⟨-, -, rfl⟩ := Memory.insert_eq_ok.1 hins
      refine ⟨?_, ?_⟩
      · rintro record events ⟨⟩
        exact ⟨List.mem_append_right _ List.mem_cons_self, i, rfl⟩
      · intro x hx
        rcases List.mem_append.1 hx with hold | hnew
        · cases hprev : p.demotion (clock i) existing with
          | none =>
              rw [hprev] at hdem
              obtain rfl : rs = rs₁ := Except.ok.inj hdem
              exact .inl hold
          | some d =>
              rw [hprev] at hdem
              obtain ⟨k, -, -, -, -, rfl⟩ := Memory.demote_eq_ok.1 hdem
              rcases List.mem_or_eq_of_mem_set hold with hold | rfl
              · exact .inl hold
              · refine .inr ⟨?_, marks_demotion copies hprev hx⟩
                obtain ⟨l, -, -, rfl, -, -⟩ := Publish.demotion_eq_some hprev
                exact ⟨i, rfl⟩
        · obtain rfl := List.mem_singleton.1 hnew
          exact .inr ⟨⟨i, rfl⟩, .inl ⟨_, _, rfl, rfl⟩⟩
  | @edited e i x r k stored shows version name =>
      refine ⟨?_, ?_⟩
      · rintro record events ⟨⟩
        exact ⟨List.mem_set (List.getElem?_eq_some_iff.1 stored).1 _, i, rfl⟩
      · intro y hy
        rcases List.mem_or_eq_of_mem_set hy with hold | rfl
        · exact .inl hold
        · exact .inr ⟨⟨i, rfl⟩, .inl ⟨_, _, rfl, rfl⟩⟩

/-- What comes of a request behind a moment is stamped. -/
theorem Stamped.upshot (h : Stamped since rs touched) (hd : Distinct (rs.map Record.imprint))
    (hd' : Distinct (rs'.map Record.imprint)) (hupshot : Upshot σ v.clock rs request change rs')
    (hlater : ∀ i, since.before (v.clock i).now = true) :
    Stamped since rs' fun title => touched title ∨ Marks change rs rs' title := by
  obtain ⟨hanswer, hrest⟩ := stamps_of_upshot hupshot
  refine h.marks hd hd' (exists_title_of_upshot hupshot hd) ?_ ?_
  · intro record events hchange
    obtain ⟨hmem, i, hi⟩ := hanswer record events hchange
    exact ⟨hmem, hi ▸ hlater i⟩
  · intro x hx
    refine (hrest x hx).imp_right ?_
    rintro ⟨⟨i, hi⟩, hmarked⟩
    exact ⟨hi ▸ hlater i, hmarked⟩

/-- **What visits up to a moment leave was not changed behind it.** -/
theorem Lasting.seen_serveAll {r : Registry σ} {vs : List Visit} (hl : Lasting r.store rs past)
    (h : ∀ x ∈ rs, since.before x.updatedAt = false) (hp : Visits.Proper (past ++ vs))
    (hearlier : ∀ v ∈ vs, ∀ i, since.before (v.clock i).now = false) :
    ∃ rs', Lasting (r.serveAll vs).store rs' (past ++ vs) ∧
      ∀ x ∈ rs', since.before x.updatedAt = false := by
  induction vs generalizing r rs past with
  | nil =>
      rw [List.append_nil]
      exact ⟨rs, hl, h⟩
  | cons v vs ih =>
      have hread := hp.readings v (List.mem_append_right _ List.mem_cons_self)
      obtain ⟨s, rs₁, hkeeps, hupshot, hvisit⟩ := visited_upshot hl.keeps hl.distinct hl.dated hread
      have hstore : (r.serve v).store = s := by rw [← visited_snd, hvisit, concluded_store]
      have hl₁ : Lasting (r.serve v).store rs₁ (past ++ [v]) :=
        hstore ▸ hl.upshot hupshot hread (hp.new List.mem_cons_self) hkeeps
      have hsplit : past ++ v :: vs = (past ++ [v]) ++ vs := by
        rw [List.append_assoc, List.singleton_append]
      rw [hsplit] at hp ⊢
      refine ih hl₁ ?_ hp fun u hu => hearlier u (List.mem_cons_of_mem _ hu)
      intro x hx
      rcases (stamps_of_upshot hupshot).2 x hx with hold | ⟨⟨i, hi⟩, -⟩
      · exact h x hold
      · exact hi ▸ hearlier v List.mem_cons_self i

end

/-! ### Stores that are followed -/

/-- A way to read a store that shows the records it keeps; a listing has no more. -/
structure Reader {σ : Type} [Store σ] [Catalog σ] [Ledger σ]
    (entries : σ → List (Except StorageError Record)) : Prop where
  shows {s : σ} {rs stored : List Record} (hk : Ledger.Keeps s rs) (hr : ∀ r ∈ rs, r.IsDated)
    (hread : entries s = stored.map .ok) : List.Forall₂ (Shows (Ledger.Legible σ)) stored rs
  few (s : σ) (filter : Filter) : (Catalog.selected s filter).length ≤ Store.size s

section

variable {σ : Type} [PacedStore σ] {r : Registry σ} {v : Visit} {record : Record}

theorem answer_eq_ok : (r.visited v).1 = .ok record ↔
    ∃ events, r.account v = .ok (record, events) := by
  rw [visited_eq, concluded_fst]
  cases r.account v with
  | error stop => simp [Except.map]
  | ok result =>
      obtain ⟨record', events⟩ := result
      simp [Except.map]

end

section

variable {σ : Type} [Store σ] [Catalog σ] [Ledger σ] {entries : σ → List (Except StorageError Record)}
  {rs rs' stored stored' : List Record} {past : List Visit} {since : Instant}
  {touched : String × String → Prop}

omit [Store σ] [Catalog σ] [Ledger σ] in
/-- What is in the entries of records that can be read is one of the records. -/
theorem mem_of_ok_mem {s : σ} (hread : entries s = stored.map .ok) {x : Record} :
    .ok x ∈ entries s ↔ x ∈ stored := by
  rw [hread, List.mem_map]
  constructor
  · rintro ⟨y, hy, he⟩
    exact Except.ok.inj he ▸ hy
  · exact fun hx => ⟨x, hx, rfl⟩

omit [Catalog σ] in
theorem touches_iff {r : Registry σ} {v : Visit} (hread : entries r.store = stored.map .ok)
    (hread' : entries (r.serve v).store = stored'.map .ok)
    (hshows : List.Forall₂ (Shows (Ledger.Legible σ)) stored rs)
    (hshows' : List.Forall₂ (Shows (Ledger.Legible σ)) stored' rs') (title : String × String) :
    r.Touches entries v title ↔ Marks (r.account v) rs rs' title := by
  constructor
  · intro h
    cases h with
    | created demand answer title | edited demand answer title =>
        obtain ⟨events, haccount⟩ := answer_eq_ok.1 answer
        exact .inl ⟨_, events, haccount, title⟩
    | demoted before after titles flags =>
        obtain ⟨x, hx, hxs⟩ := exists_of_forall₂ hshows.flip ((mem_of_ok_mem hread).1 before)
        obtain ⟨y, hy, hys⟩ := exists_of_forall₂ hshows'.flip ((mem_of_ok_mem hread').1 after)
        refine .inr ⟨x, hx, y, hy, ⟨?_, ?_⟩, hxs.isLatest.symm.trans flags.1,
          hys.isLatest.symm.trans flags.2⟩
        · exact (Record.title_eq_of_imprint hxs.imprint).symm.trans titles.1
        · exact (Record.title_eq_of_imprint hys.imprint).symm.trans titles.2
  · rintro (⟨record, events, haccount, htitle⟩ | ⟨x, hx, y, hy, ⟨hxl, hyl⟩, hflag, hno⟩)
    · have hanswer : (r.visited v).1 = .ok record := answer_eq_ok.2 ⟨events, haccount⟩
      cases hdemand : v.demand with
      | publish submission publisher => exact .created hdemand hanswer htitle
      | edit id submission editor => exact .edited hdemand hanswer htitle
    · obtain ⟨x', hx', hxs⟩ := exists_of_forall₂ hshows hx
      obtain ⟨y', hy', hys⟩ := exists_of_forall₂ hshows' hy
      refine .demoted ((mem_of_ok_mem hread).2 hx') ((mem_of_ok_mem hread').2 hy') ⟨?_, ?_⟩
        ⟨hxs.isLatest.trans hflag, hys.isLatest.trans hno⟩
      · exact (Record.title_eq_of_imprint hxs.imprint).trans hxl
      · exact (Record.title_eq_of_imprint hys.imprint).trans hyl

variable {filter : Filter} {visits : List Visit} {Good : σ → Prop}
  (hk : Keeper entries filter visits Good) (hreader : Reader entries)
include hk hreader

/-- **A visit stamps what it touches, and nothing else.** -/
theorem Keeper.stamped_serve {r : Registry σ} {v : Visit} (hl : Lasting r.store rs past)
    (hgood : Good r.store) (h : Stamped since rs touched) (hp : Visits.Proper (past ++ [v]))
    (hv : v ∈ visits) (hlater : ∀ i, since.before (v.clock i).now = true) :
    ∃ rs', Lasting (r.serve v).store rs' (past ++ [v]) ∧
      Stamped since rs' fun title => touched title ∨ r.Touches entries v title := by
  have hread : ∀ i, (v.clock i).now.IsReading := hp.readings v (by simp)
  obtain ⟨s, rs', hkeeps, hupshot, hvisit⟩ := visited_upshot hl.keeps hl.distinct hl.dated hread
  have hstore : (r.serve v).store = s := by rw [← visited_snd, hvisit, concluded_store]
  have hl' : Lasting (r.serve v).store rs' (past ++ [v]) :=
    hstore ▸ hl.upshot hupshot hread (hp.new List.mem_cons_self) hkeeps
  obtain ⟨stored, hstored, -, -⟩ := hk.displays hl hp.left.few hgood
  obtain ⟨stored', hstored', -, -⟩ := hk.displays hl' hp.few (hk.serve hv hgood)
  refine ⟨rs', hl', (h.upshot hl.distinct hl'.distinct hupshot hlater).congr fun title => ?_⟩
  rw [touches_iff hstored hstored' (hreader.shows hl.keeps hl.dated hstored)
    (hreader.shows hl'.keeps hl'.dated hstored')]

/-- **Visits stamp what they touch, and nothing else.** -/
theorem Keeper.stamped_serveAll {r : Registry σ} {vs : List Visit} (hl : Lasting r.store rs past)
    (hgood : Good r.store) (h : Stamped since rs touched) (hp : Visits.Proper (past ++ vs))
    (hvs : ∀ v ∈ vs, v ∈ visits) (hlater : ∀ v ∈ vs, ∀ i, since.before (v.clock i).now = true) :
    ∃ rs', Lasting (r.serveAll vs).store rs' (past ++ vs) ∧
      Stamped since rs' fun title => touched title ∨ r.Touched entries vs title := by
  induction vs generalizing r rs past touched with
  | nil =>
      rw [List.append_nil]
      exact ⟨rs, hl, h.congr fun title => by simp [Touched]⟩
  | cons v vs ih =>
      have hsplit : past ++ v :: vs = (past ++ [v]) ++ vs := by
        rw [List.append_assoc, List.singleton_append]
      rw [hsplit] at hp ⊢
      have hv := hvs v List.mem_cons_self
      obtain ⟨rs₁, hl₁, h₁⟩ := hk.stamped_serve hreader hl hgood h hp.left hv
        (hlater v List.mem_cons_self)
      obtain ⟨rs', hl', h'⟩ := ih hl₁ (hk.serve hv hgood) h₁ hp
        (fun u hu => hvs u (List.mem_cons_of_mem _ hu))
        (fun u hu => hlater u (List.mem_cons_of_mem _ hu))
      exact ⟨rs', hl', h'.congr fun title => by rw [Touched, or_assoc]⟩

/-- What is read behind visits up to a moment was not changed behind it. -/
theorem Keeper.seen {r : Registry σ} {vs : List Visit} (hl : Lasting r.store [] []) (hgood : Good r.store)
    (hp : Visits.Proper vs) (hvs : ∀ v ∈ vs, v ∈ visits)
    (hearlier : ∀ v ∈ vs, ∀ i, since.before (v.clock i).now = false) (x : Record)
    (hx : .ok x ∈ entries (r.serveAll vs).store) : since.before x.updatedAt = false := by
  obtain ⟨rs, hl', hseen⟩ := hl.seen_serveAll (fun _ h => absurd h List.not_mem_nil) hp hearlier
  obtain ⟨stored, hstored, -, -⟩ := hk.displays hl' hp.few (hk.serveAll hvs hgood)
  obtain ⟨y, hy, hys⟩ := exists_of_forall₂ (hreader.shows hl'.keeps hl'.dated hstored).flip
    ((mem_of_ok_mem hstored).1 hx)
  rw [hys.updatedAt]
  exact hseen y hy

end

/-! ### Walks -/

section

variable {σ : Type} [Store σ] [Catalog σ] {filter : Filter} {stored : List Record}

/-- **A walk shows the records that the filter selects**, in their order. -/
theorem Displays.walk {r : Registry σ} (h : Displays r.store filter stored)
    (hfew : (Catalog.selected r.store filter).length ≤ Store.size r.store) (moment : Moment)
    (limit : Nat) : ∃ pages, r.walk moment filter limit = (.ok pages, r) ∧
      pages.flatten = stored.filter filter.selects := by
  let w : Walk := { filter, limit := r.config.pageSize limit }
  let rest := (Memory.sequenced stored).filter fun a => filter.selects a.2
  have hcall : ∀ (now : Instant) (cursor : Option String), r.call moment.now
      (.list w.filter cursor w.limit) r.store =
        (listing (([] ++ rest).map Storage.Entry.shown) cursor w.limit, r.store) := by
    intro now cursor
    rw [List.nil_append, ← h.selected]
    exact Catalog.call_list h.isOpen filter cursor w.limit moment.now
  have hasc : Page.Ascending ([] ++ rest) := (Memory.ascending_sequenced h.few).filter _
  have hrounds : rest.length < Collect.rounds (PacedStore.size r.store) := by
    rw [h.selected, List.length_map] at hfew
    exact Nat.lt_succ_of_le hfew
  obtain ⟨pages, hrun, hshown⟩ : ∃ pages, Walk.machine.run (r.call moment.now) moment
      (Collect.rounds (PacedStore.size r.store)) (.running w) r.store = (some (.ok pages), r.store) ∧
        pages.flatten = rest.map Prod.snd :=
    w.runAt_listing (r.config.pageSize_pos limit) hcall hasc rfl hrounds
  refine ⟨pages, ?_, hshown.trans (Memory.map_snd_filter_sequenced stored filter.selects)⟩
  unfold Registry.walk
  simp only [w] at hrun
  simp only [hrun]
  rfl

end

section

variable {σ : Type} [Store σ] [Catalog σ] [Ledger σ] {entries : σ → List (Except StorageError Record)}
  {rs : List Record} {past during : List Visit} {since : Instant} {visits : List Visit}
  {Good : σ → Prop}

/-- **Who comes back to a store that displays its records catches what was touched since.** -/
theorem Keeper.caught (hk : Keeper entries { updatedSince := some since } visits Good)
    (hreader : Reader entries) {r : Registry σ} (hl : Lasting r.store rs past) (hgood : Good r.store)
    (hp : Visits.Proper (past ++ during)) (hvs : ∀ v ∈ during, v ∈ visits)
    (hlater : ∀ v ∈ during, ∀ i, since.before (v.clock i).now = true)
    (hseen : ∀ x, .ok x ∈ entries r.store → since.before x.updatedAt = false) (moment : Moment)
    (limit : Nat) :
    ∃ pages, (r.serveAll during).walk moment { updatedSince := some since } limit =
        (.ok pages, r.serveAll during) ∧
      Caught entries (r.serveAll during).store (r.Touched entries during) pages := by
  obtain ⟨stored, hstored, -, -⟩ := hk.displays hl hp.left.few hgood
  have hshows := hreader.shows hl.keeps hl.dated hstored
  have hopening : Stamped since rs fun _ => False := by
    refine stamped_opening fun x hx => ?_
    obtain ⟨y, hy, hys⟩ := exists_of_forall₂ hshows hx
    rw [← hys.updatedAt]
    exact hseen y ((mem_of_ok_mem hstored).2 hy)
  obtain ⟨rs', hl', hstamped⟩ := hk.stamped_serveAll hreader hl hgood hopening hp hvs hlater
  obtain ⟨stored', hstored', himprints, hdisplays⟩ := hk.displays hl' hp.few (hk.serveAll hvs hgood)
  have hshows' := hreader.shows hl'.keeps hl'.dated hstored'
  obtain ⟨pages, hwalk, hshown⟩ := hdisplays.walk (hreader.few _ _) moment limit
  have hsub : pages.flatten.Sublist stored' := hshown ▸ List.filter_sublist
  refine ⟨pages, hwalk, ⟨stored', hstored', hsub⟩, ?_, ?_⟩
  · have hdistinct : Distinct (stored'.map Record.imprint) := himprints ▸ hl'.distinct
    exact hdistinct.nodup_title.sublist (hsub.map _)
  · intro title
    have hselects : ∀ x : Record, ({ updatedSince := some since } : Filter).selects x =
        since.before x.updatedAt := by
      intro x
      simp [Filter.selects, Filter.holds]
    rw [hshown, List.mem_map]
    simp only [List.mem_filter, hselects]
    constructor
    · rintro ⟨x, ⟨hx, hbehind⟩, rfl⟩
      obtain ⟨y, hy, hys⟩ := exists_of_forall₂ hshows'.flip hx
      rw [hys.updatedAt] at hbehind
      rw [Record.title_eq_of_imprint hys.imprint]
      exact ((hstamped.later y hy).1 hbehind).resolve_left id
    · intro htouched
      obtain ⟨y, hy, rfl⟩ := hstamped.stored title (.inr htouched)
      obtain ⟨x, hx, hxs⟩ := exists_of_forall₂ hshows' hy
      refine ⟨x, ⟨hx, ?_⟩, Record.title_eq_of_imprint hxs.imprint⟩
      rw [hxs.updatedAt]
      exact (hstamped.later y hy).2 (.inr htouched)

end

/-! ### The list and the table -/

theorem reader_memory : Reader fun m : Memory => m.records.map .ok where
  shows {m rs stored} hk _ hread := by
    obtain ⟨-, rfl⟩ := hk
    obtain rfl := List.map_injective_iff.2 (fun _ _ => Except.ok.inj) hread
    exact List.forall₂_same.2 fun r _ => .refl r
  few m filter := by
    have hrecords := congrArg List.length (Memory.map_snd_filter_sequenced m.records filter.selects)
    rw [List.length_map] at hrecords
    refine Nat.le_trans (Nat.le_of_eq ?_) (List.length_filter_le filter.selects m.records)
    exact (List.length_map ..).trans hrecords

theorem reader_rows : Reader fun t : Rows => t.rows.map Row.record? where
  shows {t rs stored} hk hr hread := by
    obtain ⟨-, hrows⟩ := hk
    simp only [hrows, List.map_map] at hread
    clear hrows
    induction rs generalizing stored with
    | nil =>
        obtain rfl := List.map_eq_nil_iff.1 hread.symm
        exact .nil
    | cons r rs ih =>
        cases stored with
        | nil => exact absurd hread (List.cons_ne_nil _ _)
        | cons x stored =>
            simp only [List.map_cons, Function.comp_apply, List.cons.injEq] at hread
            exact .cons (Row.shows_of_record? (hr r List.mem_cons_self) hread.1)
              (ih (fun r hmem => hr r (List.mem_cons_of_mem _ hmem)) hread.2)
  few t filter := by
    have hrows : (Rows.sequenced t.rows).length = t.rows.length := by
      rw [Rows.sequenced, List.length_map, List.length_zipIdx]
    refine Nat.le_trans (Nat.le_of_eq (List.length_map ..)) ?_
    exact Nat.le_trans (List.length_filter_le _ _) (Nat.le_of_eq hrows)

/-- **What is shown of a list and of a table to who comes back with a moment** that no record was changed
behind, when some visits have been made behind it: the versions that were created, edited or demoted
meanwhile.  A table has to be able to compare moments by their stamps and to read all bags. -/
theorem walk_touched (config : Config) (validator : Manifest.Validator) (events : Broadcast Event)
    {before during : List Visit} (hp : Visits.Proper (before ++ during)) {since : Instant}
    (hlater : ∀ v ∈ during, ∀ i, since.before (v.clock i).now = true) (moment : Moment) (limit : Nat) :
    (let entries := fun m : Memory => m.records.map .ok
      let r := serveAll ⟨config, validator, ({} : Memory), events⟩ before
      (∀ x, .ok x ∈ entries r.store → since.before x.updatedAt = false) →
      ∃ pages, (r.serveAll during).walk moment { updatedSince := some since } limit =
          (.ok pages, r.serveAll during) ∧
        Caught entries (r.serveAll during).store (r.Touched entries during) pages) ∧
    ((∀ v ∈ before ++ during, ∀ i, (v.clock i).now.InEra) →
      (∀ v ∈ before ++ during, v.demand.bag.Readable) → since.IsReading → since.InEra →
      let entries := fun t : Rows => t.rows.map Row.record?
      let r := serveAll ⟨config, validator, ({} : Rows), events⟩ before
      (∀ x, .ok x ∈ entries r.store → since.before x.updatedAt = false) →
      ∃ pages, (r.serveAll during).walk moment { updatedSince := some since } limit =
          (.ok pages, r.serveAll during) ∧
        Caught entries (r.serveAll during).store (r.Touched entries during) pages) := by
  have hearly : ∀ v ∈ before, v ∈ before ++ during := fun v hv => List.mem_append_left _ hv
  have hlate : ∀ v ∈ during, v ∈ before ++ during := fun v hv => List.mem_append_right _ hv
  constructor
  · intro entries r hseen
    let opening : Registry Memory := ⟨config, validator, {}, events⟩
    have hopening : Lasting opening.store [] [] := lasting_opening Memory.keeps_empty
    obtain ⟨rs, hl, -⟩ := hopening.serveAll hp.left
    exact (keeper_memory _ (before ++ during)).caught reader_memory hl trivial hp hlate hlater hseen
      moment limit
  · intro hera hbags hreading hinEra entries r hseen
    have hf : ∀ i, ({ updatedSince := some since } : Filter).updatedSince = some i →
        i.IsReading ∧ i.InEra := by
      rintro i ⟨⟩
      exact ⟨hreading, hinEra⟩
    have hk := keeper_rows hp.readings hera hbags hf
    let opening : Registry Rows := ⟨config, validator, {}, events⟩
    have hopening : Lasting opening.store [] [] := lasting_opening Rows.keeps_empty
    obtain ⟨rs, hl, -⟩ := hopening.serveAll hp.left
    have hempty : Cabinet.Bears Placed opening.store := ⟨rfl, fun r hr => absurd hr List.not_mem_nil⟩
    exact hk.caught reader_rows hl (hk.serveAll hearly hempty) hp hlate hlater hseen moment limit

/-- A second later than the epoch. -/
def second : Instant := ⟨1, 0, by decide, by decide, Instant.epoch.nanos_lt⟩

/-- A publish that takes over the flag of a name, and an edit, both a second later. -/
def novelties : List Visit :=
  [{ arrival "a/b" "2.0.0" 3 with clock := fun _ => ⟨second, ⟨3⟩⟩ },
    { clock := fun _ => ⟨second, ⟨4⟩⟩
      demand := .edit ⟨1⟩
        { manifest := { Race.manifest "1.0.0" "d" with name := "c/d" }, bag := Bag.weights }
        { subject := "s" } }]

/-- Of three servers two are shown: the one edited, and both versions of the other, page by page. -/
theorem walk_touched_novelties :
    let before := [arrival "a/b" "1.0.0" 0, arrival "c/d" "1.0.0" 1, arrival "e/f" "1.0.0" 2]
    (Visits.Proper (before ++ novelties) ∧
      (∀ v ∈ novelties, ∀ i, Instant.epoch.before (v.clock i).now = true) ∧
      (∀ v ∈ before ++ novelties, ∀ i, (v.clock i).now.InEra) ∧
      ∀ v ∈ before ++ novelties, v.demand.bag.Readable) ∧
    (let entries := fun m : Memory => m.records.map .ok
      let r := serveAll ⟨{}, fun _ => none, ({} : Memory), { room := 1 }⟩ before
      (((r.serveAll novelties).walk ⟨second, ⟨5⟩⟩ { updatedSince := some .epoch } 2).1.toOption.map
        fun pages => pages.map fun page => page.map Record.title) =
          some [[("a/b", "1.0.0"), ("c/d", "1.0.0")], [("a/b", "2.0.0")]] ∧
      ∃ pages, (r.serveAll novelties).walk ⟨second, ⟨5⟩⟩ { updatedSince := some .epoch } 2 =
          (.ok pages, r.serveAll novelties) ∧
        Caught entries (r.serveAll novelties).store (r.Touched entries novelties) pages) ∧
    (let entries := fun t : Rows => t.rows.map Row.record?
      let r := serveAll ⟨{}, fun _ => none, ({} : Rows), { room := 1 }⟩ before
      ∃ pages, (r.serveAll novelties).walk ⟨second, ⟨5⟩⟩ { updatedSince := some .epoch } 2 =
          (.ok pages, r.serveAll novelties) ∧
        Caught entries (r.serveAll novelties).store (r.Touched entries novelties) pages) := by
  intro before
  have hall : ∀ v ∈ before ++ novelties, (∀ i, (v.clock i).now.IsReading ∧ (v.clock i).now.InEra) ∧
      v.demand.bag = Bag.weights := by
    intro v hv
    simp only [before, novelties, List.cons_append, List.nil_append, List.mem_cons, List.not_mem_nil,
      or_false] at hv
    have hepoch : Instant.epoch.IsReading ∧ Instant.epoch.InEra := by decide
    have hsecond : second.IsReading ∧ second.InEra := by decide
    rcases hv with rfl | rfl | rfl | rfl | rfl
    · exact ⟨fun _ => hepoch, rfl⟩
    · exact ⟨fun _ => hepoch, rfl⟩
    · exact ⟨fun _ => hepoch, rfl⟩
    · exact ⟨fun _ => hsecond, rfl⟩
    · exact ⟨fun _ => hsecond, rfl⟩
  have hp : Visits.Proper (before ++ novelties) := by
    refine ⟨fun v hv i => ((hall v hv).1 i).1, ?_, by decide⟩
    simp [before, novelties, arrival]
  have hera : ∀ v ∈ before ++ novelties, ∀ i, (v.clock i).now.InEra :=
    fun v hv i => ((hall v hv).1 i).2
  have hbags : ∀ v ∈ before ++ novelties, v.demand.bag.Readable :=
    fun v hv => (hall v hv).2 ▸ Bag.lossless_weights.readable
  have hlater : ∀ v ∈ novelties, ∀ i, Instant.epoch.before (v.clock i).now = true := by
    intro v hv i
    have hsecond : Instant.epoch.before second = true := by decide
    simp only [novelties, List.mem_cons, List.not_mem_nil, or_false] at hv
    rcases hv with rfl | rfl <;> exact hsecond
  have hearlier : ∀ v ∈ before, ∀ i, Instant.epoch.before (v.clock i).now = false := by
    intro v hv i
    have hepoch : Instant.epoch.before .epoch = false := by decide
    simp only [before, List.mem_cons, List.not_mem_nil, or_false] at hv
    rcases hv with rfl | rfl | rfl <;> exact hepoch
  have hearly : ∀ v ∈ before, v ∈ before ++ novelties := fun v hv => List.mem_append_left _ hv
  obtain ⟨hlist, htable⟩ := walk_touched {} (fun _ => none) { room := 1 } hp hlater ⟨second, ⟨5⟩⟩ 2
  refine ⟨⟨hp, hlater, hera, hbags⟩, ⟨by decide +kernel, hlist ?_⟩, htable hera hbags ?_ ?_ ?_⟩
  · exact (keeper_memory {} (before ++ novelties)).seen reader_memory
      (lasting_opening Memory.keeps_empty) trivial hp.left hearly hearlier
  · decide
  · decide
  · have hempty : Cabinet.Bears Placed ({} : Rows) := ⟨rfl, fun r hr => absurd hr List.not_mem_nil⟩
    have hf : ∀ since, ({} : Filter).updatedSince = some since → since.IsReading ∧ since.InEra := by
      intro since hsince
      cases hsince
    have hk := keeper_rows hp.readings hera hbags hf
    exact hk.seen reader_rows
      (lasting_opening Rows.keeps_empty) hempty hp.left hearly hearlier

end Registry

end ManifestRegistry
