/-
**What one call of a job does.**

Each call of a publish or an edit is a move of one of a few kinds.  Most of them leave the records
alone; a commit adds a version and may demote another, and a save puts an edited record in place.
Which kinds there are is told here once; whatever is claimed of all runs is then proved kind by kind.

Main definitions:

* `Service.Job.Move` — **what a call of a job may do**, and where the job goes on;
* `Service.Job.Sound` — what is known of what a job holds.

Main results:

* `Service.Job.move` — **every call of a sound job is a move**;
* `Service.Job.Move.sound` — a job is sound after its move.
-/

import ManifestRegistry.Proofs.Service.Edit
import ManifestRegistry.Proofs.Service.Interleaving
import ManifestRegistry.Proofs.Service.Publish
import ManifestRegistry.Proofs.Storage.Ledger

set_option relaxedAutoImplicit false
set_option autoImplicit false

namespace ManifestRegistry

namespace Service

open Storage

namespace Job

/-! ### What a job holds -/

/-- What is known of what a job holds, given the imprints stored: copies of stored versions of its
name, a plan made from such copies, an edited state of a stored version. -/
def Sound (ms : List Imprint) : Job → Prop
  | .publish p (.running (.lookup _ c)) => c.filter.name = some p.manifest.name ∧
      ∀ x ∈ c.records, x.name = p.manifest.name ∧ x.imprint ∈ ms ∧ x.IsDated
  | .publish _ (.running (.commit _ plan)) => Planned ms plan.record plan.demoted ∧
      plan.record.IsDated ∧ ∀ d, plan.demoted = some d → d.IsDated
  | .edit e (.running (.save u)) => u.id = e.id ∧ u.imprint ∈ ms ∧ u.IsDated
  | _ => True

/-- The identity and the name that a job is about to commit a version under. -/
def claim : Job → Option (Uuid × String)
  | .publish _ (.running (.commit _ plan)) => some (plan.record.id, plan.record.name)
  | _ => none

variable {ms ms' : List Imprint} {job : Job}

theorem Sound.mono (h : job.Sound ms) (hsub : ∀ m ∈ ms, m ∈ ms') : job.Sound ms' := by
  unfold Sound at h ⊢
  split
  · exact ⟨h.1, fun x hx => ⟨(h.2 x hx).1, hsub _ (h.2 x hx).2.1, (h.2 x hx).2.2⟩⟩
  · exact ⟨h.1.mono hsub, h.2⟩
  · exact ⟨h.1, hsub _ h.2.1, h.2.2⟩
  · trivial

theorem sound_of_opened (ms : List Imprint) {p : Publish} {progress : Progress Publish.Phase Change}
    (h : p.Opened progress) : (publish p progress).Sound ms ∧ (publish p progress).claim = none := by
  cases h with
  | lookup left => exact ⟨⟨rfl, fun x hx => absurd hx (List.not_mem_nil)⟩, rfl⟩
  | _ => exact ⟨trivial, rfl⟩

theorem sound_of_opened_edit (ms : List Imprint) {e : Edit} {progress : Progress Edit.Phase Change}
    (h : Edit.Opened progress) : (edit e progress).Sound ms ∧ (edit e progress).claim = none := by
  cases h <;> exact ⟨trivial, rfl⟩

theorem sound_job (request : Request) : request.job.Sound ms ∧ request.job.claim = none := by
  cases request with
  | publish p => exact sound_of_opened ms Publish.opened_start
  | edit e => exact sound_of_opened_edit ms Edit.opened_start

/-! ### Moves -/

/-- What a call of a job may do at some moment if a store keeps `rs`: the records kept afterwards, and
where the job goes on. -/
inductive Move (legible : Bag → Prop) (guarded : Prop) (moment : Moment) (rs : List Record) :
    Job → List Record → Job → Prop
  /-- A job that is done makes no call. -/
  | rest (job : Job) : Move legible guarded moment rs job rs job
  /-- A publish is at its checks, has failed or starts over. -/
  | open (p : Publish) (phase : Publish.Phase) {progress : Progress Publish.Phase Change}
      (h : p.Opened progress) :
      Move legible guarded moment rs (.publish p (.running phase)) rs (.publish p progress)
  /-- A page of versions is put to those read before. -/
  | page (p : Publish) (left : Nat) (c : Collect) (items : List Record) (cursor : String)
      (h : ∀ x ∈ items, ∃ r ∈ rs, Shows legible x r ∧
        ∀ name, c.filter.name = some name → r.name = name) :
      Move legible guarded moment rs (.publish p (.running (.lookup left c))) rs
        (.publish p (.running (.lookup left
          { c with cursor := some cursor, records := c.records ++ items })))
  /-- The last page is read and a plan is made. -/
  | plan (p : Publish) (left : Nat) (c : Collect) (items : List Record)
      (h : ∀ x ∈ items, ∃ r ∈ rs, Shows legible x r ∧
        ∀ name, c.filter.name = some name → r.name = name)
      (existing : List Record) (hsub : ∀ x ∈ existing, x ∈ c.records ++ items) :
      Move legible guarded moment rs (.publish p (.running (.lookup left c))) rs
        (.publish p (.running (.commit left
          ⟨p.record moment existing, p.demotion moment existing⟩)))
  /-- A plan is carried out. -/
  | commit (p : Publish) (left : Nat) (plan : Publish.Plan) {rs' : List Record}
      (h : Memory.committed rs plan.record plan.demoted = .ok rs') :
      Move legible guarded moment rs (.publish p (.running (.commit left plan))) rs'
        (.publish p (.finished (.ok (plan.record, p.events plan.record plan.demoted))))
  /-- An edit is at its checks or has failed. -/
  | reopen (e : Edit) (phase : Edit.Phase) {progress : Progress Edit.Phase Change}
      (h : Edit.Opened progress) :
      Move legible guarded moment rs (.edit e (.running phase)) rs (.edit e progress)
  /-- The version to be edited is read. -/
  | fetch (e : Edit) (x r : Record) (hr : r ∈ rs) (hx : Shows legible x r)
      (hid : x.id = e.id) (hv : x.version = e.manifest.version) (hn : x.name = e.manifest.name) :
      Move legible guarded moment rs (.edit e (.running .fetch)) rs
        (.edit e (.running (.save (e.edited moment.now x))))
  /-- The edited record is put in place of the stored one. -/
  | save (e : Edit) (u : Record) (i : Nat) (h : Memory.place? rs e.id u.version = some i)
      (hg : guarded → u.isLatest = true → ∀ j r, rs[j]? = some r → r.name = u.name →
        r.isLatest = true → j = i) :
      Move legible guarded moment rs (.edit e (.running (.save u))) (rs.set i u)
        (.edit e (.finished (.ok (u, e.events u))))

variable {σ : Type} [Store σ] [Ledger σ] {s : σ} {rs rs' : List Record} {moment : Moment}

/-- What is read of a stored record that is a given version of a server is that version. -/
theorem isVersion_of_shows {legible : Bag → Prop} {x r : Record} {id : Uuid} {version : String}
    (hx : Shows legible x r) (hv : r.isVersion id version = true) :
    x.id = id ∧ x.version = version := by
  obtain ⟨hid, hver⟩ := Record.isVersion_iff.1 hv
  exact ⟨(congrArg Imprint.id hx.imprint).trans hid, (congrArg Imprint.version hx.imprint).trans hver⟩

section

variable (hk : Ledger.Keeps s rs) (hd : Distinct (rs.map Record.imprint))
  (hr : ∀ r ∈ rs, r.IsDated)

include hk hd hr

theorem move_lookup (p : Publish) (left : Nat) (c : Collect) :
    ∃ rs', Ledger.Keeps ((publish p (.running (.lookup left c))).turn moment s).2 rs' ∧
      Move (Ledger.Legible σ) (Ledger.Guarded σ) moment rs (publish p (.running (.lookup left c)))
        rs' ((publish p (.running (.lookup left c))).turn moment s).1 := by
  obtain ⟨rs', hk', rfl, hpage⟩ := Ledger.effect (c := c.ask) moment.now hk hd hr trivial
  refine ⟨rs', hk', ?_⟩
  have hto := Publish.receive_lookup (p := p) left c moment (Store.call c.ask moment.now s).1
  simp only [turn, Machine.step, Publish.machine, Publish.ask, within_eq_call]
  rcases hto with ⟨stop, hto⟩ | ⟨page, hreply, ⟨cursor, hto⟩ | ⟨existing, hsub, plan, hplan, hto⟩⟩
  · rw [hto]
    exact .open p _ (.failed _)
  · rw [hto]
    exact .page p left c page.items cursor (hpage page hreply)
  · obtain ⟨-, -, rfl⟩ := Publish.plan_eq_ok.1 hplan
    rw [hto]
    exact .plan p left c page.items (hpage page hreply) existing hsub

theorem move_commit (p : Publish) (left : Nat) (plan : Publish.Plan)
    (hs : (publish p (.running (.commit left plan))).Sound (rs.map Record.imprint)) :
    ∃ rs', Ledger.Keeps ((publish p (.running (.commit left plan))).turn moment s).2 rs' ∧
      Move (Ledger.Legible σ) (Ledger.Guarded σ) moment rs
        (publish p (.running (.commit left plan))) rs'
        ((publish p (.running (.commit left plan))).turn moment s).1 := by
  obtain ⟨hplanned, hdated, hdem⟩ := hs
  have hapt : Apt (rs.map Record.imprint) (.commit plan.record plan.demoted) :=
    ⟨hdated, fun d he =>
      ⟨hdem d he, (hplanned.demotion d he).2.1, (hplanned.demotion d he).1⟩⟩
  obtain ⟨rs', hk', heff⟩ := Ledger.effect moment.now hk hd hr hapt
  refine ⟨rs', hk', ?_⟩
  have hto := Publish.receive_commit (p := p) left plan moment
    (Store.call (.commit plan.record plan.demoted) moment.now s).1
  simp only [turn, Machine.step, Publish.machine, Publish.ask, within_eq_call]
  rcases hto with ⟨created, hreply, hto⟩ | ⟨⟨stop, hreply⟩, hto⟩
  · rcases heff with ⟨_, he, -⟩ | ⟨hc, hok⟩
    · rw [hreply] at he
      cases he
    · rw [hreply] at hc
      cases hc
      rw [hto]
      exact .commit p left plan hok
  · rcases heff with ⟨_, -, rfl⟩ | ⟨hc, -⟩
    · exact .open p _ hto
    · rw [hreply] at hc
      cases hc

theorem move_fetch (e : Edit) :
    ∃ rs', Ledger.Keeps ((edit e (.running .fetch)).turn moment s).2 rs' ∧
      Move (Ledger.Legible σ) (Ledger.Guarded σ) moment rs (edit e (.running .fetch)) rs'
        ((edit e (.running .fetch)).turn moment s).1 := by
  obtain ⟨rs', hk', rfl, hfound⟩ :=
    Ledger.effect (c := .getVersion e.id e.manifest.version) moment.now hk hd hr trivial
  refine ⟨rs', hk', ?_⟩
  have hto := Edit.receive_fetch (e := e) moment
    (Store.call (.getVersion e.id e.manifest.version) moment.now s).1
  simp only [turn, Machine.step, Edit.machine, Edit.ask, within_eq_call]
  rcases hto with ⟨stop, hto⟩ | ⟨x, hreply, hn, hto⟩
  · rw [hto]
    exact .reopen e _ (.failed _)
  · obtain ⟨r, hmem, hx, hv⟩ := hfound x hreply
    obtain ⟨hid, hver⟩ := isVersion_of_shows hx hv
    rw [hto]
    exact .fetch e x r hmem hx hid hver hn

theorem move_save (e : Edit) (u : Record)
    (hs : (edit e (.running (.save u))).Sound (rs.map Record.imprint)) :
    ∃ rs', Ledger.Keeps ((edit e (.running (.save u))).turn moment s).2 rs' ∧
      Move (Ledger.Legible σ) (Ledger.Guarded σ) moment rs (edit e (.running (.save u))) rs'
        ((edit e (.running (.save u))).turn moment s).1 := by
  obtain ⟨hid, hm, hdated⟩ := hs
  obtain ⟨rs', hk', heff⟩ :=
    Ledger.effect (c := .update e.id u) moment.now hk hd hr ⟨hdated, hid, hm⟩
  refine ⟨rs', hk', ?_⟩
  have hto := Edit.receive_save (e := e) u moment (Store.call (.update e.id u) moment.now s).1
  simp only [turn, Machine.step, Edit.machine, Edit.ask, within_eq_call]
  rcases hto with ⟨saved, hreply, hto⟩ | ⟨⟨stop, hreply⟩, stop', hto⟩
  · rcases heff with ⟨_, he, -⟩ | ⟨hc, i, hi, rfl, hg⟩
    · rw [hreply] at he
      cases he
    · rw [hreply] at hc
      cases hc
      rw [hto]
      exact .save e u i hi hg
  · rcases heff with ⟨_, -, rfl⟩ | ⟨hc, -⟩
    · rw [hto]
      exact .reopen e _ (.failed _)
    · rw [hreply] at hc
      cases hc

/-- **Every call of a sound job is a move.** -/
theorem move (moment : Moment) (hs : job.Sound (rs.map Record.imprint)) :
    ∃ rs', Ledger.Keeps (job.turn moment s).2 rs' ∧
      Move (Ledger.Legible σ) (Ledger.Guarded σ) moment rs job rs' (job.turn moment s).1 := by
  cases job with
  | publish p progress =>
      cases progress with
      | finished r => exact ⟨rs, hk, .rest _⟩
      | running phase =>
          cases phase with
          | quota q =>
              obtain ⟨rs', hk', rfl⟩ := Ledger.effect (c := q.ask) moment.now hk hd hr trivial
              exact ⟨rs', hk', .open p _ (Publish.opened_receive_quota q moment _)⟩
          | ownership o =>
              obtain ⟨rs', hk', rfl, -⟩ := Ledger.effect (c := o.ask) moment.now hk hd hr trivial
              exact ⟨rs', hk', .open p _ (Publish.opened_receive_ownership o moment _)⟩
          | lookup left c => exact move_lookup hk hd hr p left c
          | commit left plan => exact move_commit hk hd hr p left plan hs
  | edit e progress =>
      cases progress with
      | finished r => exact ⟨rs, hk, .rest _⟩
      | running phase =>
          cases phase with
          | ownership o =>
              obtain ⟨rs', hk', rfl, -⟩ := Ledger.effect (c := o.ask) moment.now hk hd hr trivial
              exact ⟨rs', hk', .reopen e _ (Edit.opened_receive_ownership (e := e) o moment _)⟩
          | fetch => exact move_fetch hk hd hr e
          | save u => exact move_save hk hd hr e u hs

end

/-! ### After a move -/

namespace Move

variable {legible : Bag → Prop} {guarded : Prop} {job' : Job}

/-- A move loses and changes no imprint; a commit adds that of the version it claims, and is the last
call of its job. -/
theorem map_imprint (h : Move legible guarded moment rs job rs' job')
    (hd : Distinct (rs.map Record.imprint)) (hs : job.Sound (rs.map Record.imprint)) :
    rs'.map Record.imprint = rs.map Record.imprint ∨
      ∃ record : Record, job.claim = some (record.id, record.name) ∧
        rs'.map Record.imprint = rs.map Record.imprint ++ [record.imprint] ∧ job'.IsDone := by
  cases h with
  | commit p left plan hc =>
      exact .inr ⟨plan.record, rfl,
        hd.map_imprint_committed (fun d he => (hs.1.demotion d he).1) hc, trivial⟩
  | save e u i hi =>
      obtain ⟨hid, hm, -⟩ := hs
      exact .inl (map_imprint_set fun r hr => hd.imprint_eq (hid ▸ hi) hr hm)
  | _ => exact .inl rfl

theorem imprint_mem (h : Move legible guarded moment rs job rs' job')
    (hd : Distinct (rs.map Record.imprint)) (hs : job.Sound (rs.map Record.imprint))
    {m : Imprint} (hm : m ∈ rs.map Record.imprint) : m ∈ rs'.map Record.imprint := by
  rcases h.map_imprint hd hs with he | ⟨_, -, he, -⟩
  · exact he ▸ hm
  · rw [he]
    exact List.mem_append_left _ hm

theorem distinct (h : Move legible guarded moment rs job rs' job')
    (hd : Distinct (rs.map Record.imprint)) (hs : job.Sound (rs.map Record.imprint))
    (hown : ∀ id name, job.claim = some (id, name) →
      ∀ m ∈ rs.map Record.imprint, m.id = id → m.name = name) :
    Distinct (rs'.map Record.imprint) := by
  cases h with
  | commit p left plan hc =>
      exact hd.committed (hown _ _ rfl) (fun d he => (hs.1.demotion d he).1) hc
  | save e u i hi =>
      obtain ⟨hid, hm, -⟩ := hs
      rw [map_imprint_set fun r hr => hd.imprint_eq (hid ▸ hi) hr hm]
      exact hd
  | _ => exact hd

theorem dated (h : Move legible guarded moment rs job rs' job')
    (hs : job.Sound (rs.map Record.imprint)) (hr : ∀ r ∈ rs, r.IsDated) :
    ∀ r ∈ rs', r.IsDated := by
  cases h with
  | commit p left plan hc =>
      obtain ⟨-, rs₁, hd, hins⟩ := Memory.committed_eq_ok.1 hc
      obtain ⟨-, -, rfl⟩ := Memory.insert_eq_ok.1 hins
      intro r hmem
      -- the demoted copy was read of a dated record
      rcases List.mem_append.1 hmem with hmem | hmem
      · rcases Memory.mem_demoted hd hmem with hmem | hmem
        · exact hr r hmem
        · exact hs.2.2 r hmem
      · rw [List.mem_singleton.1 hmem]
        exact hs.2.1
  | save e u i hi =>
      intro r hmem
      rcases List.mem_or_eq_of_mem_set hmem with hmem | rfl
      · exact hr r hmem
      · exact hs.2.2
  | _ => exact hr

/-- **A job is sound after its move.** -/
theorem sound (h : Move legible guarded moment rs job rs' job')
    (hs : job.Sound (rs.map Record.imprint)) (hr : ∀ r ∈ rs, r.IsDated)
    (hn : moment.now.IsReading) : job'.Sound (rs'.map Record.imprint) := by
  -- what a page adds to the copies held are copies of stored versions of the name
  have hread : ∀ {p : Publish} {left : Nat} {c : Collect} {items : List Record},
      (publish p (.running (.lookup left c))).Sound (rs.map Record.imprint) →
      (∀ x ∈ items, ∃ r ∈ rs, Shows legible x r ∧
        ∀ name, c.filter.name = some name → r.name = name) →
      ∀ x ∈ c.records ++ items, x.name = p.manifest.name ∧ x.imprint ∈ rs.map Record.imprint ∧
        x.IsDated := by
    intro p left c items hc hitems x hx
    rcases List.mem_append.1 hx with hx | hx
    · exact hc.2 x hx
    · obtain ⟨r, hmem, hshow, hname⟩ := hitems x hx
      have himp := hshow.imprint
      refine ⟨(congrArg Imprint.name himp).trans (hname _ hc.1), himp ▸ List.mem_map_of_mem hmem,
        hshow.isDated (hr r hmem)⟩
  cases h with
  | rest => exact hs
  | «open» p phase h => exact (sound_of_opened _ h).1
  | page p left c items cursor h => exact ⟨hs.1, hread hs h⟩
  | plan p left c items h existing hsub =>
      have hex := fun x hx => hread hs h x (hsub x hx)
      refine ⟨Publish.planned fun x hx => ⟨(hex x hx).1, (hex x hx).2.1⟩,
        Registration.isDated_new hn, fun d hd => ?_⟩
      obtain ⟨l, hl, -, rfl, -⟩ := Publish.demotion_eq_some hd
      exact (hex l hl).2.2.demoted hn
  | commit => trivial
  | reopen e phase h => exact (sound_of_opened_edit _ h).1
  | fetch e x r hmem hx hid hv hname =>
      refine ⟨hid, ?_, Edit.isDated_edited (hx.isDated (hr r hmem)) hn⟩
      rw [Edit.imprint_edited _ hname hv, hx.imprint]
      exact List.mem_map_of_mem hmem
  | save => trivial

/-- What a job claims after its move is the fresh identity, or that of a stored version of the
name. -/
theorem claim (h : Move legible guarded moment rs job rs' job')
    (hs : job.Sound (rs.map Record.imprint)) {id : Uuid} {name : String}
    (hc : job'.claim = some (id, name)) (hne : job.claim ≠ some (id, name)) :
    id = moment.freshId ∨ ∃ m ∈ rs.map Record.imprint, m.id = id ∧ m.name = name := by
  cases h with
  | rest => exact absurd hc hne
  | «open» p phase h =>
      rw [(sound_of_opened [] h).2] at hc
      cases hc
  | plan p left c items h existing hsub =>
      obtain ⟨rfl, rfl⟩ := Prod.mk.inj (Option.some_inj.1 hc)
      rcases Publish.identity_eq moment existing with hid | ⟨x, hx, hid⟩
      · exact .inl hid
      · right
        rcases List.mem_append.1 (hsub x hx) with hx | hx
        · exact ⟨x.imprint, (hs.2 x hx).2.1, hid.symm, (hs.2 x hx).1⟩
        · obtain ⟨r, hmem, hshow, hname⟩ := h x hx
          refine ⟨r.imprint, List.mem_map_of_mem hmem, ?_, hname _ hs.1⟩
          exact (congrArg Imprint.id hshow.imprint).symm.trans hid.symm
  | reopen e phase h =>
      rw [(sound_of_opened_edit [] h).2] at hc
      cases hc
  | page | commit | fetch | save => cases hc

end Move

end Job

end Service

end ManifestRegistry
