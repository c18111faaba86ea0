/-
**Nobody gives up for nothing.**

A commit of a publish is refused as a conflict only if another publish has committed a version of the same
name since the first call of the attempt.  Every attempt that fails in this way is made up for by a
publish of its own, since a publish that has committed is done.  So a publish that gives up has been
overtaken by as many others as it has had attempts, between its first call and its last.

Main definitions:

* `Service.World.Answered`, `Service.World.Commits` — what a commit is answered; a commit that goes through;
* `Service.World.Attempt`, `Service.World.Rival` — an attempt under way; who commits meanwhile;
* `Service.World.Overtakes`, `Service.World.Overlaps` — another publish that commits, or is at work, in the
  time of a job;
* `Service.World.Warranted` — what is claimed of a run;
* `Service.World.Standing` — **how a publish stands**: what its attempts have been lost to.

Main results:

* `Service.World.Counted.rival` — a rival makes up for a lost attempt;
* `Service.World.Standing.of_other`, `Service.World.Watched.standing_running` — what calls make of how a
  publish stands;
* `Service.World.watched_run` — so it stands after any run of publishes;
* `Service.World.conflicts_warranted` — **conflicts come of rivals only**.
-/

import ManifestRegistry.Proofs.Service.Attempts
import ManifestRegistry.Proofs.Service.Convergence
import Mathlib.Data.List.Induction

set_option relaxedAutoImplicit false
set_option autoImplicit false

namespace ManifestRegistry

namespace Service

open Storage

namespace World

section

variable {σ : Type} [Store σ]

/-! ### Who commits when -/

/-- What the commit is answered that a publish makes in a turn, with so many attempts left, this one
included. -/
def Answered (w : World σ) (t : Turn) (p : Publish) (left : Nat) (reply : Reply Record) : Prop :=
  ∃ plan, w.jobs[t.job]? = some (.publish p (.running (.commit left plan))) ∧
    (Store.call (.commit plan.record plan.demoted) t.moment.now w.store).1 = reply

/-- A publish of a name makes a commit in a turn, and the commit goes through. -/
def Commits (w : World σ) (t : Turn) (name : String) : Prop :=
  ∃ p left created, w.Answered t p left (.ok created) ∧ p.manifest.name = name

/-- An attempt of a publish is under way after some turns: it has made its first call behind `before`,
with so many attempts left then, and `during` are the turns since. -/
structure Attempt (w : World σ) (us : List Turn) (j : Nat) (p : Publish) (left : Nat)
    (before : List Turn) (first : Turn) (during : List Turn) : Prop where
  split : us = before ++ [first] ++ during
  own : first.job = j
  fresh : (w.run before).jobs[j]? =
    some (.publish p (.running (.lookup left (Publish.lookup p.config p.manifest.name))))

/-- Another job commits a version of a name in the turns `during`, which follow others. -/
def Rival (w : World σ) (before during : List Turn) (j : Nat) (name : String) (k : Nat) : Prop :=
  k ≠ j ∧ ∃ vs t, vs ++ [t] <+: during ∧ t.job = k ∧ (w.run (before ++ vs)).Commits t name

/-- A turn in the time of a job, behind others: the job has had its first turn and is not done. -/
structure Meanwhile (w : World σ) (us : List Turn) (j : Nat) (before : List Turn) (t : Turn) :
    Prop where
  turn : before ++ [t] <+: us
  begun : ∃ first ∈ before, first.job = j
  going : ∃ job, (w.run before).jobs[j]? = some job ∧ ¬job.IsDone

/-- Another job commits a version of a name in the time of a job. -/
def Overtakes (w : World σ) (us : List Turn) (j : Nat) (name : String) (k : Nat) : Prop :=
  k ≠ j ∧ ∃ before t, w.Meanwhile us j before t ∧ t.job = k ∧ (w.run before).Commits t name

/-- Another publish of a name makes a call in the time of a job. -/
def Overlaps (w : World σ) (us : List Turn) (j : Nat) (name : String) (k : Nat) : Prop :=
  k ≠ j ∧ ∃ before t, w.Meanwhile us j before t ∧ t.job = k ∧ ∃ q phase,
    (w.run before).jobs[k]? = some (.publish q (.running phase)) ∧ q.manifest.name = name

/-- What is claimed of a run. -/
structure Warranted (w : World σ) (us : List Turn) : Prop where
  /-- If a commit is refused, as a conflict or because the version exists or for whatever reason,
  another publish of the name has committed since the first call of the attempt. -/
  refused : ∀ vs t p left e, vs ++ [t] <+: us → (w.run vs).Answered t p left (refuse e) →
    ∃ before first during, w.Attempt vs t.job p left before first during ∧
      ∃ k, w.Rival (before ++ [first]) during t.job p.manifest.name k
  /-- If a publish gives up, as many others of the name have committed in its time as it has had
  attempts. -/
  gaveUp : ∀ j p change, (w.run us).jobs[j]? = some (.publish p (.finished change)) → change.GaveUp →
    ∃ ks : List Nat, ks.Nodup ∧ Publish.maxAttempts ≤ ks.length ∧
      ∀ k ∈ ks, w.Overtakes us j p.manifest.name k
  /-- If fewer publishes of the name are at work in its time, a publish does not give up. -/
  few : ∀ j p change, (w.run us).jobs[j]? = some (.publish p (.finished change)) →
    ∀ ks : List Nat, (∀ k, w.Overlaps us j p.manifest.name k → k ∈ ks) →
      ks.length < Publish.maxAttempts → ¬change.GaveUp

variable {w : World σ} {us before during : List Turn} {t first : Turn} {j k : Nat} {name : String}
  {p : Publish} {left : Nat}

/-! ### Time passes -/

theorem Commits.isDone (h : w.Commits t name) :
    ∃ job, (w.turn t).jobs[t.job]? = some job ∧ job.IsDone := by
  obtain ⟨p, left, created, ⟨plan, hjob, hreply⟩, -⟩ := h
  refine ⟨_, jobs_turn_self hjob, ?_⟩
  simp only [Job.turn, Machine.step, Publish.machine, Publish.ask, within_eq_call, hreply]
  trivial

theorem Commits.not_isDone (h : w.Commits t name) {job : Job} (hjob : w.jobs[t.job]? = some job) :
    ¬job.IsDone := by
  obtain ⟨p, left, created, ⟨plan, hrunning, -⟩, -⟩ := h
  obtain rfl := Option.some_inj.1 (hrunning.symm.trans hjob)
  exact id

theorem going_of_isPrefix {vs : List Turn} (hpre : vs <+: us) {job : Job}
    (hjob : (w.run us).jobs[j]? = some job) (hgoing : ¬job.IsDone) :
    ∃ job', (w.run vs).jobs[j]? = some job' ∧ ¬job'.IsDone := by
  obtain ⟨ws, rfl⟩ := hpre
  rw [run_append] at hjob
  cases hbefore : (w.run vs).jobs[j]? with
  | none =>
      rw [jobs_run_of_none hbefore] at hjob
      cases hjob
  | some job' =>
      refine ⟨job', rfl, ?_⟩
      intro hdone
      rw [jobs_run_of_isDone hbefore hdone] at hjob
      exact hgoing (Option.some_inj.1 hjob ▸ hdone)

theorem Overtakes.of_isPrefix {us' : List Turn} (h : w.Overtakes us j name k) (hpre : us <+: us') :
    w.Overtakes us' j name k := by
  obtain ⟨hne, before, t, hm, ht, hc⟩ := h
  exact ⟨hne, before, t, ⟨hm.turn.trans hpre, hm.begun, hm.going⟩, ht, hc⟩

theorem Overtakes.isDone (h : w.Overtakes us j name k) :
    ∃ job, (w.run us).jobs[k]? = some job ∧ job.IsDone := by
  obtain ⟨-, before, t, hm, rfl, hc⟩ := h
  obtain ⟨ws, rfl⟩ := hm.turn
  obtain ⟨job, hjob, hdone⟩ := hc.isDone
  refine ⟨job, ?_, hdone⟩
  rw [run_append, run_append]
  exact jobs_run_of_isDone hjob hdone ws

theorem Overtakes.overlaps (h : w.Overtakes us j name k) : w.Overlaps us j name k := by
  obtain ⟨hne, before, t, hm, rfl, p, left, created, ⟨plan, hjob, -⟩, hname⟩ := h
  exact ⟨hne, before, t, hm, rfl, p, _, hjob, hname⟩

theorem Rival.of_isPrefix {during' : List Turn} (h : w.Rival before during j name k)
    (hpre : during <+: during') : w.Rival before during' j name k := by
  obtain ⟨hne, vs, t, hvs, ht, hc⟩ := h
  exact ⟨hne, vs, t, hvs.trans hpre, ht, hc⟩

/-- Who commits now is a rival in the turns up to now. -/
theorem rival_of_commits (hne : t.job ≠ j) (hc : (w.run (before ++ during)).Commits t name) :
    w.Rival before (during ++ [t]) j name t.job :=
  ⟨hne, during, t, List.prefix_rfl, rfl, hc⟩

theorem Rival.not_isDone (h : w.Rival before during j name k) {job : Job}
    (hjob : (w.run before).jobs[k]? = some job) : ¬job.IsDone := by
  obtain ⟨-, vs, t, -, rfl, hc⟩ := h
  intro hdone
  refine hc.not_isDone ?_ hdone
  rw [run_append]
  exact jobs_run_of_isDone hjob hdone vs

/-- A rival of an attempt that is still under way overtakes the publish. -/
theorem Rival.overtakes (h : w.Rival (before ++ [first]) during j name k) (hfirst : first.job = j)
    {job : Job} (hjob : (w.run (before ++ [first] ++ during)).jobs[j]? = some job)
    (hgoing : ¬job.IsDone) : w.Overtakes (before ++ [first] ++ during) j name k := by
  obtain ⟨hne, vs, t, hvs, ht, hc⟩ := h
  have hpre : before ++ [first] ++ vs ++ [t] <+: before ++ [first] ++ during := by
    rw [List.append_assoc _ vs]
    exact (List.prefix_append_right_inj _).2 hvs
  refine ⟨hne, before ++ [first] ++ vs, t, ⟨hpre, ⟨first, by simp, hfirst⟩, ?_⟩, ht, hc⟩
  exact going_of_isPrefix ((List.prefix_append _ [t]).trans hpre) hjob hgoing

/-! ### Attempts that have been lost -/

/-- Others have overtaken a job, as many as it has lost attempts. -/
def Counted (w : World σ) (us : List Turn) (j : Nat) (name : String) (left : Nat) : Prop :=
  ∃ ks : List Nat, ks.Nodup ∧ Publish.maxAttempts ≤ left + ks.length ∧
    ∀ k ∈ ks, w.Overtakes us j name k

theorem counted_maxAttempts (w : World σ) (us : List Turn) (j : Nat) (name : String) :
    w.Counted us j name Publish.maxAttempts :=
  ⟨[], .nil, Nat.le_refl _, fun _ hk => absurd hk List.not_mem_nil⟩

theorem Counted.of_isPrefix {us' : List Turn} (h : w.Counted us j name left) (hpre : us <+: us') :
    w.Counted us' j name left := by
  obtain ⟨ks, hnodup, hlen, hall⟩ := h
  exact ⟨ks, hnodup, hlen, fun k hk => (hall k hk).of_isPrefix hpre⟩

/-- **A rival makes up for a lost attempt**: it is none of those that had overtaken before. -/
theorem Counted.rival (h : w.Counted before j name left)
    (hr : w.Rival (before ++ [first]) during j name k) (hfirst : first.job = j) {job : Job}
    (hjob : (w.run (before ++ [first] ++ during)).jobs[j]? = some job) (hgoing : ¬job.IsDone) :
    w.Counted (before ++ [first] ++ during) j name (left - 1) := by
  obtain ⟨ks, hnodup, hlen, hall⟩ := h
  have hpre : before <+: before ++ [first] ++ during := by
    rw [List.append_assoc]
    exact List.prefix_append _ _
  refine ⟨k :: ks, List.nodup_cons.2 ⟨?_, hnodup⟩, ?_, ?_⟩
  · intro hk
    obtain ⟨job', hjob', hdone⟩ := (hall k hk).isDone
    refine hr.not_isDone ?_ hdone
    rw [run_append]
    exact jobs_run_of_isDone hjob' hdone [first]
  · rw [List.length_cons]
    omega
  · intro k' hk'
    rcases List.mem_cons.1 hk' with rfl | hk'
    · exact hr.overtakes hfirst hjob hgoing
    · exact (hall k' hk').of_isPrefix hpre

end

/-! ### How a publish stands -/

variable {σ : Type} [Store σ] [Ledger σ]

/-- An attempt is under way, and it is current or has a rival. -/
def Underway (w : World σ) (us : List Turn) (j : Nat) (rs : List Record) (p : Publish) (left : Nat)
    (phase : Publish.Phase) : Prop :=
  ∃ before first during, w.Attempt us j p left before first during ∧
    w.Counted before j p.manifest.name left ∧
      (Publish.Current (Ledger.Legible σ) rs p phase ∨
        ∃ k, w.Rival (before ++ [first]) during j p.manifest.name k)

/-- **How a publish stands** after some turns, if `rs` are stored then: what its attempts have been lost
to. -/
inductive Standing (w : World σ) (us : List Turn) (j : Nat) (rs : List Record) (p : Publish) :
    Progress Publish.Phase Change → Prop
  | quota (q : Quota) : Standing w us j rs p (.running (.quota q))
  | ownership (o : Ownership) : Standing w us j rs p (.running (.ownership o))
  | fresh (left : Nat) (h : w.Counted us j p.manifest.name left) :
      Standing w us j rs p (.running (.lookup left (Publish.lookup p.config p.manifest.name)))
  | lookup (left : Nat) (c : Collect) (h : w.Underway us j rs p left (.lookup left c)) :
      Standing w us j rs p (.running (.lookup left c))
  | commit (left : Nat) (plan : Publish.Plan) (hname : plan.record.name = p.manifest.name)
      (h : w.Underway us j rs p left (.commit left plan)) :
      Standing w us j rs p (.running (.commit left plan))
  | ended (change : Change) (h : ¬change.GaveUp) : Standing w us j rs p (.finished change)
  | gaveUp (change : Change) (h : w.Counted us j p.manifest.name 0) :
      Standing w us j rs p (.finished change)

variable {w : World σ} {us : List Turn} {t : Turn} {j : Nat} {rs rs' : List Record} {p : Publish}
  {left : Nat} {progress : Progress Publish.Phase Change} {used : List Uuid}

theorem standing_of_checked (w : World σ) (us : List Turn) (j : Nat) (rs : List Record)
    (h : p.Checked Publish.Fatal progress) : w.Standing us j rs p progress := by
  cases h with
  | failed stop hstop => exact .ended _ (Publish.not_gaveUp_of_fatal hstop)
  | quota q => exact .quota q
  | ownership o => exact .ownership o
  | lookup => exact .fresh _ (w.counted_maxAttempts us j _)

/-- An attempt that is under way stays so in another turn: it stays current unless a rival commits. -/
theorem Underway.later {phase : Publish.Phase} (h : w.Underway us j rs p left phase)
    (hnext : numbered rs' p.manifest.name = numbered rs p.manifest.name ∨
      (t.job ≠ j ∧ (w.run us).Commits t p.manifest.name)) :
    w.Underway (us ++ [t]) j rs' p left phase := by
  obtain ⟨before, first, during, hattempt, hcounted, hknown⟩ := h
  have hattempt' : w.Attempt (us ++ [t]) j p left before first (during ++ [t]) :=
    ⟨by rw [hattempt.split, List.append_assoc (before ++ [first])], hattempt.own, hattempt.fresh⟩
  refine ⟨before, first, during ++ [t], hattempt', hcounted, ?_⟩
  rcases hknown with hcurrent | ⟨k, hrival⟩
  · rcases hnext with hsame | ⟨hne, hcommits⟩
    · exact .inl (hcurrent.congr hsame)
    · rw [hattempt.split] at hcommits
      exact .inr ⟨_, rival_of_commits hne hcommits⟩
  · exact .inr ⟨k, hrival.of_isPrefix (List.prefix_append _ _)⟩

/-- **What another call makes of how a publish stands.** -/
theorem Standing.of_other (h : w.Standing us j rs p progress) (hne : t.job ≠ j)
    (hnext : numbered rs' p.manifest.name = numbered rs p.manifest.name ∨
      (w.run us).Commits t p.manifest.name) : w.Standing (us ++ [t]) j rs' p progress := by
  have hnext' := hnext.imp_right fun hcommits => And.intro hne hcommits
  have hpre : us <+: us ++ [t] := List.prefix_append _ _
  cases h with
  | quota q => exact .quota q
  | ownership o => exact .ownership o
  | fresh left h => exact .fresh left (h.of_isPrefix hpre)
  | lookup left c h => exact .lookup left c (h.later hnext')
  | commit left plan hname h => exact .commit left plan hname (h.later hnext')
  | ended change h => exact .ended change h
  | gaveUp change h => exact .gaveUp change (h.of_isPrefix hpre)

theorem Standing.record_name {plan : Publish.Plan}
    (h : w.Standing us j rs p (.running (.commit left plan))) :
    plan.record.name = p.manifest.name := by
  cases h with
  | commit _ _ hname _ => exact hname

section

variable [Catalog σ] [Candid σ] {s : σ}

theorem Underway.lookup {c : Collect} (h : w.Underway us j rs p left (.lookup left c))
    (hk : Ledger.Keeps s rs) (hr : ∀ r ∈ rs, r.IsDated) (moment : Moment) :
    w.Standing us j rs p (p.receive (.lookup left c) moment
      (Store.call (.list c.filter c.cursor c.pageSize) moment.now s).1) := by
  have hreply := list_ne_conflict (Candid.isOpen hk) c.filter c.cursor c.pageSize moment.now
  obtain ⟨before, first, during, hattempt, hcounted, hknown⟩ := h
  have hknown' : ∀ phase, p.receive (.lookup left c) moment
      (Store.call (.list c.filter c.cursor c.pageSize) moment.now s).1 = .running phase →
        Publish.Current (Ledger.Legible σ) rs p phase ∨
          ∃ k, w.Rival (before ++ [first]) during j p.manifest.name k := by
    intro phase hto
    exact hknown.imp_left fun hcurrent => hcurrent.receive_lookup hk hr hto
  have hfatal : ∀ stop, (Store.call (.list c.filter c.cursor c.pageSize) moment.now s).1 = .error stop →
      Publish.Fatal (stop.map Failure.ofStorage) := by
    intro stop hstop
    refine Publish.fatal_map ?_
    rintro reason rfl
    exact hreply reason hstop
  have hplanned : ∀ existing f, p.plan moment existing = .error f → Publish.Fatal (.failed f) :=
    fun existing f hf => Publish.fatal_of_isClient f (Publish.isClient_of_plan hf)
  rcases Publish.receive_lookup_cases hplanned left c hfatal with
    ⟨c', hto⟩ | ⟨existing, plan, hplan, hto⟩ | ⟨stop, hfatal, hto⟩
  · have hstands := hknown' _ hto
    rw [hto]
    exact .lookup left c' ⟨before, first, during, hattempt, hcounted, hstands⟩
  · have hstands := hknown' _ hto
    obtain ⟨-, -, rfl⟩ := Publish.plan_eq_ok.1 hplan
    rw [hto]
    exact .commit left _ rfl ⟨before, first, during, hattempt, hcounted, hstands⟩
  · rw [hto]
    exact .ended _ (Publish.not_gaveUp_of_fatal hfatal)

/-- **A commit that has lost has a rival.** -/
theorem Underway.exists_rival {plan : Publish.Plan} (h : w.Underway us j rs p left (.commit left plan))
    (hk : Ledger.Keeps s rs) (ho : Orderly rs)
    (hs : (Job.publish p (.running (.commit left plan))).Sound (rs.map Record.imprint)) {now : Instant}
    {e : StorageError} (hlost : (Store.call (.commit plan.record plan.demoted) now s).1 = refuse e) :
    ∃ before first during, w.Attempt us j p left before first during ∧
      w.Counted before j p.manifest.name left ∧
        ∃ k, w.Rival (before ++ [first]) during j p.manifest.name k := by
  obtain ⟨before, first, during, hattempt, hcounted, hcurrent | hrival⟩ := h
  · -- a current plan would have gone through
    obtain ⟨rs', hc⟩ := hcurrent.committed ho
    have hok := Candid.accepts hk ho.distinct hs.1.demoted hc now
    rw [hok] at hlost
    cases hlost
  · exact ⟨before, first, during, hattempt, hcounted, hrival⟩

/-- A commit is made: it goes through, or the attempt has been lost to a rival. -/
theorem Underway.commit {plan : Publish.Plan} (h : w.Underway us j rs p left (.commit left plan))
    (hjob : (w.run us).jobs[j]? = some (.publish p (.running (.commit left plan))))
    (hk : Ledger.Keeps s rs) (ho : Orderly rs)
    (hs : (Job.publish p (.running (.commit left plan))).Sound (rs.map Record.imprint)) (t : Turn)
    (rs' : List Record) : w.Standing (us ++ [t]) j rs' p (p.receive (.commit left plan) t.moment
      (Store.call (.commit plan.record plan.demoted) t.moment.now s).1) := by
  have hfatal : ∀ stop,
      (Store.call (.commit plan.record plan.demoted) t.moment.now s).1 = .error stop →
      (∀ reason, stop ≠ .failed (.conflict reason)) → Publish.Fatal (stop.map Failure.ofStorage) :=
    fun stop _ hstop => Publish.fatal_map hstop
  rcases Publish.receive_commit_cases (p := p) left plan t.moment hfatal with
    ⟨created, -, hto⟩ | ⟨e, reason, hreply, hto⟩ | ⟨stop, hfatal, hto⟩
  · rw [hto]
    refine .ended _ ?_
    rintro ⟨reason, he⟩
    cases he
  · obtain ⟨before, first, during, hattempt, hcounted, k, hrival⟩ := h.exists_rival hk ho hs hreply
    rw [hattempt.split] at hjob
    have hcount := hcounted.rival hrival hattempt.own hjob id
    rw [← hattempt.split] at hcount
    have hcount' := hcount.of_isPrefix (List.prefix_append us [t])
    rw [hto]
    cases hleft : left - 1 with
    | zero => exact .gaveUp _ (hleft ▸ hcount')
    | succ left' => exact .fresh (left' + 1) (hleft ▸ hcount')
  · rw [hto]
    exact .ended _ (Publish.not_gaveUp_of_fatal hfatal)

end

/-! ### Runs of publishes -/

/-- What is known after some turns of publishes. -/
structure Watched (w : World σ) (us : List Turn) (rs : List Record) (used : List Uuid) : Prop where
  sound : (w.run us).Sound rs used
  steady : (w.run us).Steady rs
  publishes : (w.run us).AllPublish
  standing : ∀ j p progress, (w.run us).jobs[j]? = some (.publish p progress) →
    w.Standing us j rs p progress

theorem watched_opening {s : σ} (hs : Ledger.Keeps s []) (publishes : List Publish) :
    (opening s (publishes.map .publish)).Watched [] [] [] where
  sound := sound_opening _ hs
  steady := steady_opening s _
  publishes := allPublish_opening s publishes
  standing j p progress hjob := by
    obtain ⟨request, hrequest, he⟩ := List.mem_map.1 (List.mem_of_getElem? hjob)
    obtain ⟨q, -, rfl⟩ := List.mem_map.1 hrequest
    obtain ⟨rfl, rfl⟩ := Job.publish.inj he
    exact standing_of_checked _ _ _ _ (Publish.checked_start Publish.fatal_of_isClient)

theorem Moves.records_eq {w w' : World σ} (hm : w.Moves t rs rs' w') {phase : Publish.Phase}
    (hjob : w.jobs[t.job]? = some (.publish p (.running phase)))
    (hno : ∀ left plan, phase ≠ .commit left plan) : rs' = rs := by
  cases hm with
  | nobody => rfl
  | somebody hjob' hm =>
      obtain rfl := Option.some_inj.1 (hjob'.symm.trans hjob)
      cases hm with
      | commit p left plan hc => exact absurd rfl (hno left plan)
      | _ => rfl

namespace Watched

variable [Catalog σ] [Candid σ] {w' : World σ} (h : w.Watched us rs used)
include h

/-- **The versions of a name change only when one of them is committed.** -/
theorem numbered_or_commits (hm : (w.run us).Moves t rs rs' w') (name : String) :
    numbered rs' name = numbered rs name ∨ (w.run us).Commits t name := by
  cases hm with
  | nobody => exact .inl rfl
  | @somebody job job' _ s hjob hm =>
      obtain ⟨p, progress, rfl⟩ := h.publishes job (List.mem_of_getElem? hjob)
      cases hm with
      | commit p left plan hc =>
          have hs := (h.sound.jobs _ (List.mem_of_getElem? hjob)).1
          have hd := h.steady.orderly.distinct
          by_cases hname : plan.record.name = name
          · right
            have hok := Candid.accepts h.sound.keeps hd hs.demoted hc t.moment.now
            have hown := (h.standing _ _ _ hjob).record_name
            exact ⟨p, left, _, ⟨plan, hjob, hok⟩, hown.symm.trans hname⟩
          · left
            exact numbered_committed hd
              (fun d hd => ⟨(hs.demotion d hd).1, (hs.demotion d hd).2.2.1⟩) hc hname
      | _ => exact .inl rfl

/-- **What its own call makes of how a publish stands.** -/
theorem standing_running (hm : (w.run us).Moves t rs rs' w') {phase : Publish.Phase}
    (hjob : (w.run us).jobs[t.job]? = some (.publish p (.running phase))) :
    w.Standing (us ++ [t]) t.job rs' p (p.receive phase t.moment
      (Store.call (Publish.ask phase) t.moment.now (w.run us).store).1) := by
  have hk := h.sound.keeps
  have hr := h.sound.dated
  cases h.standing _ _ _ hjob with
  | quota q =>
      refine standing_of_checked _ _ _ _
        (Publish.checked_receive_quota Publish.fatal_of_isClient q t.moment ?_)
      intro stop hreply
      refine Publish.fatal_map ?_
      rintro reason rfl
      exact Candid.count_ne_conflict hk _ _ _ reason hreply
  | ownership o =>
      refine standing_of_checked _ _ _ _
        (Publish.checked_receive_ownership Publish.fatal_of_isClient o t.moment ?_)
      intro stop hreply
      refine Publish.fatal_map ?_
      rintro reason rfl
      exact list_ne_conflict (Candid.isOpen hk) _ _ _ _ reason hreply
  | fresh left hcount =>
      -- the first call of an attempt
      obtain rfl := hm.records_eq hjob fun _ _ => nofun
      have hbegun : w.Underway (us ++ [t]) t.job rs' p left
          (.lookup left (Publish.lookup p.config p.manifest.name)) :=
        ⟨us, t, [], ⟨(List.append_nil _).symm, rfl, hjob⟩, hcount,
          .inl (Publish.current_lookup _ _ p left)⟩
      exact hbegun.lookup hk hr t.moment
  | lookup left c hunder =>
      obtain rfl := hm.records_eq hjob fun _ _ => nofun
      exact (hunder.later (.inl rfl)).lookup hk hr t.moment
  | commit left plan hname hunder =>
      exact hunder.commit hjob hk h.steady.orderly
        (h.sound.jobs _ (List.mem_of_getElem? hjob)) t rs'

/-- How the publish stands whose turn it is. -/
theorem standing_self (hm : (w.run us).Moves t rs rs' w')
    (hjob : ((w.run us).turn t).jobs[t.job]? = some (.publish p progress)) :
    w.Standing (us ++ [t]) t.job rs' p progress := by
  cases hold : (w.run us).jobs[t.job]? with
  | none =>
      rw [turn_of_none hold, hold] at hjob
      cases hjob
  | some job =>
      obtain ⟨q, progress', rfl⟩ := h.publishes job (List.mem_of_getElem? hold)
      rw [jobs_turn_self hold] at hjob
      cases progress' with
      | finished change =>
          obtain ⟨rfl, rfl⟩ := Job.publish.inj (Option.some_inj.1 hjob)
          cases h.standing _ _ _ hold with
          | ended _ hgave => exact .ended change hgave
          | gaveUp _ hcount => exact .gaveUp change (hcount.of_isPrefix (List.prefix_append _ _))
      | running phase =>
          obtain ⟨rfl, rfl⟩ := Job.publish.inj (Option.some_inj.1 hjob)
          exact h.standing_running hm hold

/-- **A turn of publishes is watched.** -/
theorem turn (hread : t.moment.now.IsReading) (hfresh : t.moment.freshId ∉ used) :
    ∃ rs', (w.run us).Moves t rs rs' ((w.run us).turn t) ∧
      w.Watched (us ++ [t]) rs' (t.moment.freshId :: used) := by
  obtain ⟨rs', hm, hsound⟩ := h.sound.turn hread hfresh
  have hrun := w.run_append_singleton us t
  refine ⟨rs', hm, hrun ▸ hsound, ?_, hrun ▸ h.publishes.turn t, ?_⟩
  · rw [hrun]
    exact h.steady.of_moves h.sound hm (.inr (h.publishes.not_revives t rs))
  · intro j p progress hjob
    rw [hrun] at hjob
    by_cases ht : t.job = j
    · subst ht
      exact h.standing_self hm hjob
    · rw [jobs_turn_of_ne _ ht] at hjob
      exact (h.standing j p progress hjob).of_other ht (h.numbered_or_commits hm _)

end Watched

variable [Catalog σ] [Candid σ]

/-- **Any run of publishes is watched.** -/
theorem watched_run {s : σ} (hs : Ledger.Keeps s []) (publishes : List Publish)
    (hf : Turns.Fair us) : ∃ rs, (opening s (publishes.map .publish)).Watched us rs
      (us.map fun t => t.moment.freshId).reverse := by
  induction us using List.reverseRecOn with
  | nil => exact ⟨[], watched_opening hs publishes⟩
  | append_singleton us t ih =>
      obtain ⟨rs, h⟩ := ih hf.left
      obtain ⟨rs', -, h'⟩ := h.turn hf.last.1 hf.last.2
      exact ⟨rs', by simpa using h'⟩

/-- Conflicts in a candid store come of rivals only. -/
theorem warranted {s : σ} (hs : Ledger.Keeps s []) (publishes : List Publish) (hf : Turns.Fair us) :
    (opening s (publishes.map .publish)).Warranted us := by
  have hgaveUp : ∀ j p change, ((opening s (publishes.map .publish)).run us).jobs[j]? =
      some (.publish p (.finished change)) → change.GaveUp → ∃ ks : List Nat, ks.Nodup ∧
        Publish.maxAttempts ≤ ks.length ∧
          ∀ k ∈ ks, (opening s (publishes.map .publish)).Overtakes us j p.manifest.name k := by
    intro j p change hjob hgave
    obtain ⟨rs, h⟩ := watched_run hs publishes hf
    cases h.standing _ _ _ hjob with
    | ended _ hno => exact absurd hgave hno
    | gaveUp _ hcount =>
        obtain ⟨ks, hnodup, hlen, hall⟩ := hcount
        exact ⟨ks, hnodup, by omega, hall⟩
  refine ⟨?_, hgaveUp, ?_⟩
  · rintro vs t p left e hpre ⟨plan, hjob, hreply⟩
    obtain ⟨rs, h⟩ := watched_run hs publishes
      (hf.of_isPrefix ((List.prefix_append vs [t]).trans hpre))
    cases h.standing _ _ _ hjob with
    | commit _ _ _ hunder =>
        obtain ⟨before, first, during, hattempt, -, hrival⟩ := hunder.exists_rival h.sound.keeps
          h.steady.orderly (h.sound.jobs _ (List.mem_of_getElem? hjob)) hreply
        exact ⟨before, first, during, hattempt, hrival⟩
  · intro j p change hjob ks hks hfew hgave
    obtain ⟨overtakers, hnodup, hlen, hall⟩ := hgaveUp j p change hjob hgave
    have hle := hnodup.length_le_of_subset fun k hk => hks k (hall k hk).overlaps
    omega

/-- **Conflicts come of rivals only**, in a list and in a table alike, however the calls of any publishes
interleave: a commit is refused only if another publish of the name has committed since the first call of
the attempt, and a publish that gives up has been overtaken by as many others as it has had attempts. -/
theorem conflicts_warranted (publishes : List Publish) {us : List Turn} (hf : Turns.Fair us) :
    (opening ({} : Memory) (publishes.map .publish)).Warranted us ∧
      (opening ({} : Rows) (publishes.map .publish)).Warranted us :=
  ⟨warranted Memory.keeps_empty publishes hf, warranted Rows.keeps_empty publishes hf⟩

/-- Four publishes of a name: the first one looks up the versions three times, and each time another one
looks them up too and commits first. -/
def outrun : World Memory :=
  opening {} (["4.0.0", "1.0.0", "2.0.0", "3.0.0"].map fun version => .publish (Race.publish version))

/-- The first publish gives up, and three others have overtaken it. -/
theorem conflicts_warranted_outrun :
    Turns.Fair (Race.turns [0, 1, 1, 0, 0, 2, 2, 0, 0, 3, 3, 0]) ∧
    ∃ change, (outrun.run (Race.turns [0, 1, 1, 0, 0, 2, 2, 0, 0, 3, 3, 0])).jobs[0]? =
      some (.publish (Race.publish "4.0.0") (.finished change)) ∧ change.GaveUp ∧
        ∃ ks : List Nat, ks.Nodup ∧ Publish.maxAttempts ≤ ks.length ∧ ∀ k ∈ ks,
          outrun.Overtakes (Race.turns [0, 1, 1, 0, 0, 2, 2, 0, 0, 3, 3, 0]) 0 "a/b" k := by
  have hf : Turns.Fair (Race.turns [0, 1, 1, 0, 0, 2, 2, 0, 0, 3, 3, 0]) := ⟨by decide, by decide⟩
  have hgave : ∃ change, (outrun.run (Race.turns [0, 1, 1, 0, 0, 2, 2, 0, 0, 3, 3, 0])).jobs[0]? =
      some (.publish (Race.publish "4.0.0") (.finished change)) ∧ change.GaveUp := ⟨_, rfl, _, rfl⟩
  obtain ⟨change, hjob, hgave⟩ := hgave
  have hwarranted := (conflicts_warranted [Race.publish "4.0.0", Race.publish "1.0.0",
    Race.publish "2.0.0", Race.publish "3.0.0"] hf).1
  exact ⟨hf, change, hjob, hgave, hwarranted.gaveUp 0 _ change hjob hgave⟩

end World

end Service

end ManifestRegistry
