/-
**What jobs fail for.**

A job that comes to nothing does so for a fault of the caller, because it lost against other writers,
because it was left before its end, or because one of its calls failed.  A call that fails ends the job for
the same reason, but for a commit that lost, and nothing else can be the store's fault: while no call meets a
store that is broken, no job reports one.

Main definitions:

* `Service.Usual` — reasons among which are all that a store is not to blame for;
* `Service.Late` — reasons among which are those of them that a task may still meet when its submission
  has been accepted;
* `Service.Sturdy` — a reason other than that the store itself is broken;
* `Service.Progress.FailsFor`, `Service.Job.FailsFor` — a task or a job that fails for certain reasons only.

Main results:

* `Service.Publish.failsFor_receive`, `Service.Edit.failsFor_receive` — an answer ends a task for a usual
  reason or for its own, and for a late one if it is past its submission;
* `Service.Job.FailsFor.turn` — **a job fails for the reasons of its calls**.
-/

import ManifestRegistry.Proofs.Service.Attempts
import ManifestRegistry.Proofs.Service.Edit
import ManifestRegistry.Proofs.Service.Interleaving

set_option relaxedAutoImplicit false
set_option autoImplicit false

namespace ManifestRegistry

namespace Service

open Storage

/-- Reasons among which are all that a store is not to blame for. -/
structure Usual (Reason : Stop Failure → Prop) : Prop where
  client : ∀ f : Failure, f.isClient = true → Reason (.failed f)
  conflict : ∀ reason, Reason (.failed (.storage (.conflict reason)))
  crashed : Reason .crashed

/-- Reasons among which are all that a task may still meet when its submission has been accepted, a
store's fault apart. -/
structure Late (Reason : Stop Failure → Prop) : Prop where
  missing : ∀ what, Reason (.failed (.notFound what))
  renamed : ∀ old new, Reason (.failed (.invalidInput ("cannot rename '" ++ old ++ "' to '" ++ new ++
    "' by editing")))
  published : ∀ reason, Reason (.failed (.invalidVersion reason))
  full : ∀ name max, Reason (.failed (.maxVersionsReached name max))
  taken : ∀ url owner, Reason (.failed (.duplicateRemoteUrl url owner))
  conflict : ∀ reason, Reason (.failed (.storage (.conflict reason)))

theorem Usual.late {Reason : Stop Failure → Prop} (h : Usual Reason) : Late Reason where
  missing _ := h.client _ rfl
  renamed _ _ := h.client _ rfl
  published _ := h.client _ rfl
  full _ _ := h.client _ rfl
  taken _ _ := h.client _ rfl
  conflict := h.conflict

/-- A reason other than that the store itself is broken. -/
def Sturdy (stop : Stop Failure) : Prop := ∀ cause, stop ≠ .failed (.storage (.backend cause))

theorem usual_sturdy : Usual Sturdy where
  client f hf cause h := by
    obtain rfl := Stop.failed.inj h
    cases hf
  conflict reason cause h := nomatch h
  crashed cause h := nomatch h

/-- A job does not report a broken store of which no call has told. -/
theorem sturdy_map {stop : Stop StorageError} (h : ∀ cause, stop ≠ .failed (.backend cause)) :
    Sturdy (stop.map Failure.ofStorage) := by
  intro cause he
  cases stop with
  | crashed => cases he
  | failed e =>
      have hf : Failure.ofStorage e = .storage (.backend cause) := Stop.failed.inj he
      cases e with
      | backend cause' => exact h cause' rfl
      | conflict reason => cases hf
      | _ => cases hf

/-- A task that fails for certain reasons only, if it has failed. -/
def Progress.FailsFor {τ : Type} (Reason : Stop Failure → Prop) (progress : Progress τ Change) : Prop :=
  ∀ stop, progress = .finished (.error stop) → Reason stop

variable {Reason : Stop Failure → Prop}

namespace Publish

variable {p : Publish}

theorem Checked.failsFor {progress : Progress Phase Change} (h : p.Checked Reason progress) :
    progress.FailsFor Reason := by
  rintro stop rfl
  cases h with
  | failed _ hreason => exact hreason

theorem reason_of_plan (h : Late Reason) {moment : Moment} {existing : List Record} {f : Failure}
    (hf : p.plan moment existing = .error f) : Reason (.failed f) := by
  rcases plan_eq_error hf with ⟨reason, rfl⟩ | rfl
  · exact h.published reason
  · exact h.full _ _

/-- A publish that starts over gives up or goes on. -/
theorem failsFor_retry (h : Late Reason) (left : Nat) (reason : String) :
    (p.retry left reason).FailsFor Reason := by
  cases left with
  | zero =>
      rintro stop ⟨⟩
      exact h.conflict _
  | succ left => exact fun stop he => nomatch he

/-- **An answer ends a publish past its quota for a late reason or for its own.** -/
theorem failsFor_receive_late (h : Late Reason) {phase : Phase} (hphase : ∀ q, phase ≠ .quota q)
    (moment : Moment) {reply : Reply (ask phase).Answer}
    (hreply : ∀ stop, reply = .error stop → Reason (stop.map Failure.ofStorage)) :
    (p.receive phase moment reply).FailsFor Reason := by
  cases phase with
  | quota q => exact absurd rfl (hphase q)
  | ownership o =>
      have hchecked : p.Checked Reason (p.receive (.ownership o) moment reply) :=
        checked_andThen_ownership fun stop =>
          Ownership.reason_of_receive h.taken o moment hreply
      exact hchecked.failsFor
  | lookup left c =>
      rcases receive_lookup_cases (fun existing f => reason_of_plan (p := p) h) left c hreply with
        ⟨c', hto⟩ | ⟨existing, plan, -, hto⟩ | ⟨stop, hreason, hto⟩
      · exact hto ▸ fun stop he => nomatch he
      · exact hto ▸ fun stop he => nomatch he
      · rw [hto]
        rintro _ ⟨⟩
        exact hreason
  | commit left plan =>
      rcases receive_commit_cases (p := p) left plan moment fun stop he _ => hreply stop he with
        ⟨created, -, hto⟩ | ⟨e, reason, -, hto⟩ | ⟨stop, hreason, hto⟩
      · exact hto ▸ fun stop he => nomatch he
      · rw [hto]
        exact failsFor_retry h _ _
      · rw [hto]
        rintro _ ⟨⟩
        exact hreason

/-- **An answer ends a publish for a usual reason or for its own.** -/
theorem failsFor_receive (h : Usual Reason) (phase : Phase) (moment : Moment)
    {reply : Reply (ask phase).Answer}
    (hreply : ∀ stop, reply = .error stop → Reason (stop.map Failure.ofStorage)) :
    (p.receive phase moment reply).FailsFor Reason := by
  cases phase with
  | quota q => exact (checked_receive_quota h.client q moment hreply).failsFor
  | ownership | lookup | commit =>
      exact failsFor_receive_late h.late (fun q hq => by cases hq) moment hreply

end Publish

namespace Edit

variable {e : Edit}

theorem reason_of_apply (h : Late Reason) {now : Instant} {found : Option Record} {f : Failure}
    (hf : e.apply now found = .error f) : Reason (.failed f) := by
  unfold Edit.apply at hf
  split at hf
  · obtain rfl := Except.error.inj hf
    exact h.missing _
  · split at hf
    · cases hf
    · obtain rfl := Except.error.inj hf
      exact h.renamed _ _

theorem failsFor_ownership {progress : Progress Ownership (Outcome Unit)}
    (h : ∀ stop, progress = .finished (.error stop) → Reason stop) :
    (progress.andThen Phase.ownership afterOwnership).FailsFor Reason := by
  cases progress with
  | running o => exact fun stop he => nomatch he
  | finished r =>
      cases r with
      | ok _ => exact fun stop he => nomatch he
      | error stop =>
          rintro _ ⟨⟩
          exact h stop rfl

theorem failsFor_start (h : Usual Reason) : e.start.FailsFor Reason := by
  unfold start
  cases hflaw : e.submission.flaw? e.config e.validator with
  | some f =>
      rintro _ ⟨⟩
      exact h.client f (Publish.isClient_of_flaw? hflaw)
  | none => exact failsFor_ownership fun stop he => absurd he (Ownership.start_ne_error _ stop)

/-- **An answer ends an edit for a late reason or for its own.** -/
theorem failsFor_receive (h : Late Reason) (phase : Phase) (moment : Moment)
    {reply : Reply (e.ask phase).Answer}
    (hreply : ∀ stop, reply = .error stop → Reason (stop.map Failure.ofStorage)) :
    (e.receive phase moment reply).FailsFor Reason := by
  cases phase with
  | ownership o =>
      exact failsFor_ownership fun stop => Ownership.reason_of_receive h.taken o moment hreply
  | fetch =>
      cases reply with
      | error stop =>
          rintro _ ⟨⟩
          exact hreply stop rfl
      | ok found =>
          intro stop hstop
          have hafter : e.afterFetch moment.now (.ok found) = .finished (.error stop) := hstop
          unfold afterFetch at hafter
          cases happly : e.apply moment.now found with
          | ok u =>
              simp only [happly] at hafter
              cases hafter
          | error f =>
              simp only [happly] at hafter
              obtain rfl : Stop.failed f = stop := Except.error.inj (Progress.finished.inj hafter)
              exact reason_of_apply h happly
  | save u =>
      cases reply with
      | error stop =>
          rintro _ ⟨⟩
          exact hreply stop rfl
      | ok saved => exact fun stop he => nomatch he

end Edit

namespace Job

/-- A job that fails for certain reasons only, if it fails. -/
def FailsFor (Reason : Stop Failure → Prop) (job : Job) : Prop :=
  ∀ stop, job.result = .error stop → Reason stop

theorem failsFor_publish (h : Usual Reason) {p : Publish} {progress : Progress Publish.Phase Change}
    (hp : progress.FailsFor Reason) : (publish p progress).FailsFor Reason := by
  cases progress with
  | running phase =>
      rintro stop ⟨⟩
      exact h.crashed
  | finished change => exact fun stop he => hp stop (congrArg Progress.finished he)

theorem failsFor_edit (h : Usual Reason) {e : Edit} {progress : Progress Edit.Phase Change}
    (hp : progress.FailsFor Reason) : (edit e progress).FailsFor Reason := by
  cases progress with
  | running phase =>
      rintro stop ⟨⟩
      exact h.crashed
  | finished change => exact fun stop he => hp stop (congrArg Progress.finished he)

theorem failsFor_job (h : Usual Reason) (request : Request) : request.job.FailsFor Reason := by
  cases request with
  | publish p => exact failsFor_publish h (Publish.checked_start h.client).failsFor
  | edit e => exact failsFor_edit h (Edit.failsFor_start h)

/-- **A job fails for the reasons of its calls**, or for a usual one. -/
theorem FailsFor.turn {job : Job} (hjob : job.FailsFor Reason) (h : Usual Reason) {σ : Type} [Store σ]
    {s : σ} {moment : Moment} (hstore : ∀ c stop, (Store.call c moment.now s).1 = .error stop →
      Reason (stop.map Failure.ofStorage)) : (job.turn moment s).1.FailsFor Reason := by
  cases job with
  | publish p progress =>
      cases progress with
      | finished change => exact hjob
      | running phase =>
          exact failsFor_publish h (Publish.failsFor_receive h phase moment (hstore _))
  | edit e progress =>
      cases progress with
      | finished change => exact hjob
      | running phase => exact failsFor_edit h (Edit.failsFor_receive h.late phase moment (hstore _))

end Job

end Service

end ManifestRegistry
