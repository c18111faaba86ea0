/-
**A job that is alone with a store.**

While nobody else is at work on a store, whatever a job has read is still stored when it writes.  Up to
then the records are what they were, and in the end the job has changed nothing, or it has done what was
asked of it: committed a version that was planned from stored records, or put a stored record back
edited.  A publish that gets as far as its first look at them has been let through by the quota.

Main definitions:

* `Service.Copies` — copies of stored records of a name;
* `Service.Publish.Granted` — a publish that the quota lets through;
* `Service.Upshot` — **what may come of a request**, and the records that it leaves;
* `Service.Job.Aware` — what is known of a job that has changed nothing yet;
* `Service.Job.Course` — a job that has changed nothing yet or has come to something.

Main results:

* `Service.Publish.past_afterQuota` — nobody gets past the quota whom it does not let through;
* `Service.Job.Course.turn` — **every call keeps a job on its course**;
* `Service.Upshot.move` — what comes of a request is one move of a job that knows what is stored;
* `Service.Upshot.map_imprint` — **it adds one imprint at most**.
-/

import ManifestRegistry.Proofs.Service.Latest

set_option relaxedAutoImplicit false
set_option autoImplicit false

namespace ManifestRegistry

namespace Service

open Storage

/-! ### The quota -/

namespace Publish

/-- The quota lets a publish through: its publisher is an admin, there is no limit, or a count in a store
that keeps `rs` is below it. -/
def Granted (σ : Type) [Store σ] [Ledger σ] (p : Publish) (clock : Nat → Moment) (rs : List Record) :
    Prop :=
  p.publisher.isAdmin = true ∨ p.config.dailyQuota < 0 ∨ ∃ (s : σ) (i used : Nat), Ledger.Keeps s rs ∧
    (Store.call (.countRecent p.publisher.subject Quota.windowHours) (clock i).now s).1 = .ok used ∧
      used < p.config.dailyQuota.toNat

/-- A publish that is past the quota if it is still at work, and something that holds then. -/
def Past (G : Prop) (progress : Progress Phase Change) : Prop :=
  ∀ phase, progress = .running phase → G ∧ ∀ q, phase ≠ .quota q

variable {p : Publish} {G : Prop}

theorem past_finished (change : Change) : Past G (.finished change) := fun _ h => nomatch h

theorem past_retry (hG : G) (left : Nat) (reason : String) : Past G (p.retry left reason) := by
  cases left with
  | zero => exact past_finished _
  | succ left =>
      rintro phase ⟨⟩
      exact ⟨hG, fun q hq => nomatch hq⟩

theorem past_ownership (hG : G) (progress : Progress Ownership (Outcome Unit)) :
    Past G (progress.andThen Phase.ownership p.afterOwnership) := by
  cases progress with
  | running o =>
      rintro phase ⟨⟩
      exact ⟨hG, fun q hq => nomatch hq⟩
  | finished r =>
      cases r with
      | error stop => exact past_finished _
      | ok _ => exact past_retry hG maxAttempts ""

/-- **Nobody gets past the quota whom it does not let through.** -/
theorem past_afterQuota {outcome : Outcome Quota.Decision}
    (hG : ∀ decision, outcome = .ok decision → decision.isAllowed = true → G) :
    Past G (p.afterQuota outcome) := by
  cases outcome with
  | error stop => exact past_finished _
  | ok decision =>
      simp only [afterQuota]
      split
      · exact past_finished _
      · rename_i hverdict
        have hallowed : decision.isAllowed = true := by
          cases decision <;> first | rfl | cases hverdict
        split
        · exact past_finished _
        · exact past_ownership (hG decision rfl hallowed) _

theorem past_receive_quota {q : Quota} {moment : Moment} {reply : Reply Nat}
    (hG : ∀ used, reply = .ok used → used < q.daily.toNat → G) :
    Past G (p.receive (.quota q) moment reply) := by
  show Past G (p.afterQuota ((ofReply reply).map (Quota.ofCount q.daily)))
  refine past_afterQuota ?_
  intro decision hdecision hallowed
  cases reply with
  | error stop => cases hdecision
  | ok used =>
      obtain rfl := Except.ok.inj hdecision
      refine hG used rfl ?_
      by_cases hlt : used < q.daily.toNat
      · exact hlt
      · rw [Quota.ofCount, if_neg hlt] at hallowed
        cases hallowed

theorem past_receive {phase : Phase} (hphase : ∀ q, phase ≠ .quota q) (hG : G) {moment : Moment}
    (reply : Reply (ask phase).Answer) : Past G (p.receive phase moment reply) := by
  cases phase with
  | quota q => exact absurd rfl (hphase q)
  | ownership o => exact past_ownership hG (o.receive moment reply)
  | lookup left c =>
      rcases receive_lookup (p := p) left c moment reply with
        ⟨stop, hto⟩ | ⟨page, -, ⟨cursor, hto⟩ | ⟨existing, -, plan, -, hto⟩⟩
      · rw [hto]
        exact past_finished _
      · rw [hto]
        rintro phase ⟨⟩
        exact ⟨hG, fun q hq => nomatch hq⟩
      · rw [hto]
        rintro phase ⟨⟩
        exact ⟨hG, fun q hq => nomatch hq⟩
  | commit left plan =>
      show Past G (p.afterCommit left plan reply)
      unfold afterCommit
      split
      · exact past_finished _
      · exact past_retry hG _ _
      · exact past_retry hG _ _
      · exact past_finished _

end Publish

/-! ### What comes of a request -/

/-- Copies of stored records of a name. -/
def Copies (legible : Bag → Prop) (rs : List Record) (name : String) (xs : List Record) : Prop :=
  ∀ x ∈ xs, ∃ r ∈ rs, Shows legible x r ∧ r.name = name

theorem Copies.stored {legible : Bag → Prop} {rs xs : List Record} {name : String}
    (h : Copies legible rs name xs) {x : Record} (hx : x ∈ xs) :
    x.name = name ∧ x.imprint ∈ rs.map Record.imprint := by
  obtain ⟨r, hmem, hshow, hname⟩ := h x hx
  exact ⟨(congrArg Imprint.name hshow.imprint).trans hname, hshow.imprint ▸ List.mem_map_of_mem hmem⟩

section

variable (σ : Type) [Store σ] [Ledger σ] (clock : Nat → Moment) (rs : List Record)

/-- What may come of a request to a store that keeps `rs`, and the records that it leaves. -/
inductive Upshot : Request → Change → List Record → Prop
  /-- Nothing comes of it. -/
  | refused (request : Request) (stop : Stop Failure) : Upshot request (.error stop) rs
  /-- A version is committed that was planned from stored records. -/
  | published (p : Publish) (i : Nat) (existing : List Record) {rs' : List Record}
      (granted : p.Granted σ clock rs)
      (copies : Copies (Ledger.Legible σ) rs p.manifest.name existing)
      (committed : Memory.committed rs (p.record (clock i) existing) (p.demotion (clock i) existing) =
        .ok rs') :
      Upshot (.publish p) (.ok (p.record (clock i) existing,
        p.events (p.record (clock i) existing) (p.demotion (clock i) existing))) rs'
  /-- A stored record is put back edited. -/
  | edited (e : Edit) (i : Nat) {x r : Record} {k : Nat} (stored : rs[k]? = some r)
      (shows : Shows (Ledger.Legible σ) x r) (version : r.isVersion e.id e.manifest.version = true)
      (name : r.name = e.manifest.name) :
      Upshot (.edit e) (.ok (e.edited (clock i).now x, e.events (e.edited (clock i).now x)))
        (rs.set k (e.edited (clock i).now x))

end

namespace Job

/-- What a job was asked for. -/
def request : Job → Request
  | .publish p _ => .publish p
  | .edit e _ => .edit e

@[simp] theorem request_turn {σ : Type} [Store σ] (job : Job) (moment : Moment) (s : σ) :
    (job.turn moment s).1.request = job.request := by
  cases job with
  | publish p progress => cases progress <;> rfl
  | edit e progress => cases progress <;> rfl

@[simp] theorem request_job (request : Request) : request.job.request = request := by
  cases request <;> rfl

section

variable (σ : Type) [Store σ] [Ledger σ] (clock : Nat → Moment) (rs : List Record)

/-- What is known of a job that has changed nothing yet in a store that keeps `rs`. -/
def Aware : Job → Prop
  | .publish p (.running (.quota q)) => q = p.quota
  | .publish p (.running (.ownership _)) => p.Granted σ clock rs
  | .publish p (.running (.lookup _ c)) => p.Granted σ clock rs ∧
      c.filter.name = some p.manifest.name ∧ Copies (Ledger.Legible σ) rs p.manifest.name c.records
  | .publish p (.running (.commit _ plan)) => p.Granted σ clock rs ∧ ∃ i existing,
      Copies (Ledger.Legible σ) rs p.manifest.name existing ∧
        plan = ⟨p.record (clock i) existing, p.demotion (clock i) existing⟩
  | .edit e (.running (.save u)) => ∃ i x, ∃ r ∈ rs, Shows (Ledger.Legible σ) x r ∧
      r.isVersion e.id e.manifest.version = true ∧ r.name = e.manifest.name ∧
        u = e.edited (clock i).now x
  | .publish _ (.finished change) | .edit _ (.finished change) => ∃ stop, change = .error stop
  | .edit _ (.running (.ownership _)) | .edit _ (.running .fetch) => True

/-- A job that has changed nothing yet or has come to something, in a store that kept `rs` and keeps
`rs'`. -/
def Course (job : Job) (rs' : List Record) : Prop :=
  (rs' = rs ∧ job.Aware σ clock rs) ∨ (job.IsDone ∧ Upshot σ clock rs job.request job.result rs')

end

variable {σ : Type} [Store σ] [Ledger σ] {clock : Nat → Moment} {rs rs' : List Record} {job : Job}

/-! ### Before anything is changed -/

theorem aware_of_opened {p : Publish} {progress : Progress Publish.Phase Change}
    (h : p.Opened progress) (hpast : Publish.Past (p.Granted σ clock rs) progress) :
    (publish p progress).Aware σ clock rs := by
  cases h with
  | failed stop => exact ⟨stop, rfl⟩
  | quota q => exact absurd rfl ((hpast _ rfl).2 q)
  | ownership o => exact (hpast _ rfl).1
  | lookup left => exact ⟨(hpast _ rfl).1, rfl, fun x hx => absurd hx List.not_mem_nil⟩

theorem aware_of_opened_edit {e : Edit} {progress : Progress Edit.Phase Change}
    (h : Edit.Opened progress) : (edit e progress).Aware σ clock rs := by
  cases h with
  | failed stop => exact ⟨stop, rfl⟩
  | _ => trivial

theorem aware_job (request : Request) : request.job.Aware σ clock rs := by
  cases request with
  | edit e => exact aware_of_opened_edit Edit.opened_start
  | publish p =>
      have hopened : p.Opened (p.quota.start.andThen Publish.Phase.quota p.afterQuota) :=
        Publish.opened_start
      show (publish p (p.quota.start.andThen Publish.Phase.quota p.afterQuota)).Aware σ clock rs
      -- whoever need not be counted is past the quota from the beginning
      unfold Quota.start at hopened ⊢
      split
      · rename_i hfree
        rw [if_pos hfree] at hopened
        have hgranted : p.Granted σ clock rs := by
          rcases Bool.or_eq_true_iff.1 hfree with hadmin | hnone
          · exact .inl hadmin
          · exact .inr (.inl (of_decide_eq_true hnone))
        have hpast : Publish.Past (p.Granted σ clock rs) (p.afterQuota (.ok .unlimited)) :=
          Publish.past_afterQuota fun _ _ _ => hgranted
        exact aware_of_opened hopened hpast
      · rename_i hfree
        rw [if_neg hfree] at hopened
        split
        · rename_i hzero
          rw [if_pos hzero] at hopened
          exact aware_of_opened hopened (Publish.past_finished _)
        · exact rfl

theorem Aware.sound (h : job.Aware σ clock rs) (hr : ∀ r ∈ rs, r.IsDated)
    (hread : ∀ i, (clock i).now.IsReading) : job.Sound (rs.map Record.imprint) := by
  have hcopies : ∀ {name : String} {xs : List Record}, Copies (Ledger.Legible σ) rs name xs →
      ∀ x ∈ xs, x.name = name ∧ x.imprint ∈ rs.map Record.imprint ∧ x.IsDated := by
    intro name xs hxs x hx
    obtain ⟨r, hmem, hshow, -⟩ := hxs x hx
    exact ⟨(hxs.stored hx).1, (hxs.stored hx).2, hshow.isDated (hr r hmem)⟩
  unfold Aware at h
  split at h
  · trivial
  · trivial
  · exact ⟨h.2.1, hcopies h.2.2⟩
  · obtain ⟨-, i, existing, hexisting, rfl⟩ := h
    have hex := hcopies hexisting
    refine ⟨Publish.planned fun x hx => ⟨(hex x hx).1, (hex x hx).2.1⟩,
      Registration.isDated_new (hread i), fun d hd => ?_⟩
    obtain ⟨l, hl, -, rfl, -⟩ := Publish.demotion_eq_some hd
    exact (hex l hl).2.2.demoted (hread i)
  · obtain ⟨i, x, r, hmem, hshow, hv, hn, rfl⟩ := h
    obtain ⟨hid, hver⟩ := isVersion_of_shows hshow hv
    have hname : x.name = r.name := congrArg Imprint.name hshow.imprint
    refine ⟨hid, ?_, Edit.isDated_edited (hshow.isDated (hr r hmem)) (hread i)⟩
    rw [Edit.imprint_edited _ (hname.trans hn) hver, hshow.imprint]
    exact List.mem_map_of_mem hmem
  · trivial
  · trivial
  · trivial
  · trivial

/-- What a job claims that has changed nothing yet is an identity of its own or that of a stored version of
the name. -/
theorem Aware.claim (h : job.Aware σ clock rs) {id : Uuid} {name : String}
    (hc : job.claim = some (id, name)) : (∃ i, (clock i).freshId = id) ∨
      ∃ m ∈ rs.map Record.imprint, m.id = id ∧ m.name = name := by
  unfold Job.claim at hc
  split at hc
  · obtain ⟨-, i, existing, hcopies, rfl⟩ := h
    obtain ⟨rfl, rfl⟩ := Prod.mk.inj (Option.some_inj.1 hc)
    rcases Publish.identity_eq (clock i) existing with hid | ⟨x, hx, hid⟩
    · exact .inl ⟨i, hid.symm⟩
    · obtain ⟨r, hmem, hshow, hname⟩ := hcopies x hx
      refine .inr ⟨r.imprint, List.mem_map_of_mem hmem, ?_, hname⟩
      exact (congrArg Imprint.id hshow.imprint).symm.trans hid.symm
  · cases hc

theorem Aware.isLatest_eq {e : Edit} {u r : Record} (h : (edit e (.running (.save u))).Aware σ clock rs)
    (hd : Distinct (rs.map Record.imprint)) (hmem : r ∈ rs) (himp : r.imprint = u.imprint) :
    r.isLatest = u.isLatest := by
  obtain ⟨i, x, s, hs, hshow, hv, hname, rfl⟩ := h
  obtain ⟨hid, hver⟩ := isVersion_of_shows hshow hv
  have hx : x.name = e.manifest.name := (congrArg Imprint.name hshow.imprint).trans hname
  rw [Edit.imprint_edited _ hx hver, hshow.imprint] at himp
  obtain rfl := hd.eq_of_imprint hmem hs himp
  exact hshow.isLatest.symm

theorem Aware.heeds (h : job.Aware σ clock rs) (hd : Distinct (rs.map Record.imprint)) :
    job.Heeds rs := by
  unfold Heeds
  split
  · intro hu r hmem himp
    exact (h.isLatest_eq hd hmem himp).trans hu
  · trivial

theorem Aware.not_revives (h : job.Aware σ clock rs) (hd : Distinct (rs.map Record.imprint))
    (hr : ∀ r ∈ rs, r.IsDated) (hread : ∀ i, (clock i).now.IsReading) : ¬job.Revives rs := by
  intro hrev
  unfold Revives at hrev
  split at hrev
  · rename_i e u
    obtain ⟨hu, r, hmem, hv, hflag⟩ := hrev
    obtain ⟨hid, hstored, -⟩ := h.sound hr hread
    obtain ⟨k, hplace, hk⟩ := hd.exists_place hmem hv
    have himp : r.imprint = u.imprint := hd.imprint_eq (hid ▸ hplace) hk hstored
    rw [h.isLatest_eq hd hmem himp, hu] at hflag
    cases hflag
  · exact hrev

/-! ### One call -/

section

variable {s : σ} (h : job.Aware σ clock rs) (hk : Ledger.Keeps s rs)
include h hk

theorem Aware.past_turn {p : Publish} {progress : Progress Publish.Phase Change} {i : Nat}
    (hturn : (job.turn (clock i) s).1 = .publish p progress) :
    Publish.Past (p.Granted σ clock rs) progress := by
  cases job with
  | edit e progress' => cases progress' <;> cases hturn
  | publish p' progress' =>
      cases progress' with
      | finished change =>
          cases hturn
          exact Publish.past_finished _
      | running phase =>
          cases hturn
          by_cases hquota : ∃ q, phase = .quota q
          · obtain ⟨q, rfl⟩ := hquota
            obtain rfl : q = p.quota := h
            show Publish.Past _ (p.receive (.quota p.quota) (clock i)
              (Store.call p.quota.ask (clock i).now s).1)
            refine Publish.past_receive_quota ?_
            intro used hreply hlt
            exact .inr (.inr ⟨s, i, used, hk, hreply, hlt⟩)
          · refine Publish.past_receive (fun q hq => hquota ⟨q, hq⟩) ?_ _
            cases phase with
            | quota q => exact absurd ⟨q, rfl⟩ hquota
            | ownership o => exact h
            | lookup left c => exact h.1
            | commit left plan => exact h.1

/-- A call of a job that has changed nothing yet. -/
theorem Aware.turn (hd : Distinct (rs.map Record.imprint)) (hr : ∀ r ∈ rs, r.IsDated)
    (hread : ∀ i, (clock i).now.IsReading) (i : Nat) :
    ∃ rs', Ledger.Keeps (job.turn (clock i) s).2 rs' ∧
      (job.turn (clock i) s).1.Course σ clock rs rs' := by
  have hsound := h.sound hr hread
  obtain ⟨rs', hk', hmove⟩ := Job.move hk hd hr (clock i) hsound
  refine ⟨rs', hk', ?_⟩
  have hpast : ∀ p progress, (job.turn (clock i) s).1 = .publish p progress →
      Publish.Past (p.Granted σ clock rs) progress := fun p progress => h.past_turn hk
  generalize (job.turn (clock i) s).1 = job' at hmove hpast
  cases hmove with
  | rest => exact .inl ⟨rfl, h⟩
  | «open» p phase hopened => exact .inl ⟨rfl, aware_of_opened hopened (hpast p _ rfl)⟩
  | page p left c items cursor hitems =>
      refine .inl ⟨rfl, h.1, h.2.1, ?_⟩
      intro x hx
      rcases List.mem_append.1 hx with hx | hx
      · exact h.2.2 x hx
      · obtain ⟨r, hmem, hshow, hname⟩ := hitems x hx
        exact ⟨r, hmem, hshow, hname _ h.2.1⟩
  | plan p left c items hitems existing hsub =>
      refine .inl ⟨rfl, h.1, i, existing, ?_, rfl⟩
      intro x hx
      rcases List.mem_append.1 (hsub x hx) with hx | hx
      · exact h.2.2 x hx
      · obtain ⟨r, hmem, hshow, hname⟩ := hitems x hx
        exact ⟨r, hmem, hshow, hname _ h.2.1⟩
  | commit p left plan hc =>
      obtain ⟨hgranted, j, existing, hcopies, rfl⟩ := h
      exact .inr ⟨trivial, .published p j existing hgranted hcopies hc⟩
  | reopen e phase hopened => exact .inl ⟨rfl, aware_of_opened_edit hopened⟩
  | fetch e x r hmem hshow hid hver hname =>
      have himp := hshow.imprint
      refine .inl ⟨rfl, i, x, r, hmem, hshow, Record.isVersion_iff.2 ⟨?_, ?_⟩, ?_, rfl⟩
      · exact (congrArg Imprint.id himp).symm.trans hid
      · exact (congrArg Imprint.version himp).symm.trans hver
      · exact (congrArg Imprint.name himp).symm.trans hname
  | save e u k hplace =>
      obtain ⟨j, x, r, hmem, hshow, hv, hname, rfl⟩ := h
      obtain ⟨k', hplace', hk'⟩ := hd.exists_place hmem hv
      have hver : (e.edited (clock j).now x).version = e.manifest.version := rfl
      obtain rfl : k = k' := Option.some_inj.1 (hplace.symm.trans (hver ▸ hplace'))
      exact .inr ⟨trivial, .edited e j hk' hshow hv hname⟩

end

/-- **Every call keeps a job on its course.** -/
theorem Course.turn {s : σ} (h : job.Course σ clock rs rs') (hk : Ledger.Keeps s rs')
    (hd : Distinct (rs.map Record.imprint)) (hr : ∀ r ∈ rs, r.IsDated)
    (hread : ∀ i, (clock i).now.IsReading) (i : Nat) :
    ∃ rs'', Ledger.Keeps (job.turn (clock i) s).2 rs'' ∧
      (job.turn (clock i) s).1.Course σ clock rs rs'' := by
  rcases h with ⟨rfl, haware⟩ | ⟨hdone, hupshot⟩
  · exact haware.turn hk hd hr hread i
  · rw [Job.turn_of_isDone hdone]
    exact ⟨rs', hk, .inr ⟨hdone, hupshot⟩⟩

/-- A job that its visitor leaves has come to something, be it nothing. -/
theorem Course.upshot (h : job.Course σ clock rs rs') :
    Upshot σ clock rs job.request job.result rs' := by
  rcases h with ⟨rfl, haware⟩ | ⟨-, hupshot⟩
  · have hresult : ∃ stop, job.result = .error stop := by
      cases job with
      | publish p progress =>
          cases progress with
          | running phase => exact ⟨_, rfl⟩
          | finished change => exact haware
      | edit e progress =>
          cases progress with
          | running phase => exact ⟨_, rfl⟩
          | finished change => exact haware
    obtain ⟨stop, hstop⟩ := hresult
    rw [hstop]
    exact .refused _ stop
  · exact hupshot

end Job

variable {σ : Type} [Store σ] [Ledger σ] {clock : Nat → Moment} {rs rs' : List Record}

/-- What comes of a request is what a move of a job that has changed nothing yet does. -/
theorem Upshot.move {request : Request} {change : Change} (h : Upshot σ clock rs request change rs')
    (hd : Distinct (rs.map Record.imprint)) : ∃ (job job' : Job) (i : Nat),
      job.Aware σ clock rs ∧ Job.Move (Ledger.Legible σ) False (clock i) rs job rs' job' := by
  cases h with
  | refused stop => exact ⟨request.job, _, 0, Job.aware_job request, .rest _⟩
  | published p i existing granted copies committed =>
      exact ⟨.publish p (.running (.commit 0 ⟨p.record (clock i) existing,
        p.demotion (clock i) existing⟩)), _, i, ⟨granted, i, existing, copies, rfl⟩,
        .commit p 0 _ committed⟩
  | @edited e i x r k stored shows version name =>
      have hmem := List.mem_of_getElem? stored
      obtain ⟨k', hplace, hk'⟩ := hd.exists_place hmem version
      obtain rfl := hd.eq_place hplace stored version
      exact ⟨.edit e (.running (.save (e.edited (clock i).now x))), _, i,
        ⟨i, x, r, hmem, shows, version, name, rfl⟩, .save e _ k hplace False.elim⟩

/-- What is demoted was read of a stored version of the name. -/
theorem Copies.demotion {legible : Bag → Prop} {p : Publish} {moment : Moment} {existing : List Record}
    (h : Copies legible rs p.manifest.name existing) {d : Record}
    (hd : p.demotion moment existing = some d) :
    d.imprint ∈ rs.map Record.imprint ∧ d.isLatest = false ∧ d.name = p.manifest.name := by
  obtain ⟨l, hl, -, rfl, -⟩ := Publish.demotion_eq_some hd
  exact ⟨(h.stored hl).2, rfl, (h.stored hl).1⟩

/-- **What comes of a request changes no imprint and adds one at most**, that of a version which the quota
lets through. -/
theorem Upshot.map_imprint {request : Request} {change : Change}
    (h : Upshot σ clock rs request change rs') (hd : Distinct (rs.map Record.imprint)) :
    rs'.map Record.imprint = rs.map Record.imprint ∨ ∃ p i existing, request = .publish p ∧
      p.Granted σ clock rs ∧ rs'.map Record.imprint =
        rs.map Record.imprint ++ [(p.record (clock i) existing).imprint] := by
  cases h with
  | refused stop => exact .inl rfl
  | published p i existing granted copies committed =>
      exact .inr ⟨p, i, existing, rfl, granted,
        hd.map_imprint_committed (fun d he => (copies.demotion he).1) committed⟩
  | @edited e i x r k stored shows version name =>
      obtain ⟨-, hver⟩ := Job.isVersion_of_shows shows version
      have hname : x.name = e.manifest.name := (congrArg Imprint.name shows.imprint).trans name
      refine .inl (map_imprint_set fun s hs => ?_)
      obtain rfl := Option.some_inj.1 (stored.symm.trans hs)
      rw [Edit.imprint_edited _ hname hver, shows.imprint]

end Service

end ManifestRegistry
