/-
**Which bags are refused.**

A submission in form is refused for its bag if the text of the bag is longer than the settings allow, and
whatever a store answers, a request that gets past its submission never fails with this reason.  An empty
bag has a text, too, that of its brackets.  So where a bag may not even have these two bytes, who submits
no bag is refused, although no bag would be kept.

Main definitions:

* `Service.Submission.oversize` — the failure that tells of a bag that is too large;
* `Service.Submission.Overfull` — a bag that is there and larger than it may be;
* `Service.Submission.Spares` — a reason other than the bag;
* `Registry.decided` — what the quota says of a publisher.

Main results:

* `Service.Submission.lt_bagBytes_iff` — which submissions have too large a text for a bag;
* `Service.Edit.runAt_spares`, `Service.Publish.runAt_spares` — a task past its submission does not fail
  for the bag;
* `Registry.bag_refused_iff` — **which requests are refused for their bags**;
* `Registry.exists_bare_refused` — a request without a bag that is refused for it.
-/

import ManifestRegistry.Proofs.Registry.Alone
import ManifestRegistry.Proofs.Service.Courses
import ManifestRegistry.Proofs.Service.Passing
import ManifestRegistry.Proofs.Service.Reasons

set_option relaxedAutoImplicit false
set_option autoImplicit false

namespace ManifestRegistry

open Service Storage

/-! ### Bags that are too large -/

namespace Service.Submission

variable {config : Config} {validator : Manifest.Validator} {s : Submission}

/-- The failure that tells of a bag that is too large. -/
def oversize (config : Config) (s : Submission) : Failure :=
  .invalidInput ("publisher extensions are " ++ toString s.bagBytes ++ " bytes, limit is " ++
    toString config.maxBagBytes)

/-- A bag that is there and larger than it may be. -/
def Overfull (config : Config) (s : Submission) : Prop :=
  s.bag ≠ [] ∧ config.maxBagBytes < s.bagBytes

theorem bagBytes_of_bare (h : s.bag = []) : s.bagBytes = 2 := by
  rw [bagBytes, h]
  decide

/-- A text is too large for a bag if the bag is, or if there is none and no room for the brackets. -/
theorem lt_bagBytes_iff : config.maxBagBytes < s.bagBytes ↔
    s.Overfull config ∨ s.bag = [] ∧ config.maxBagBytes < 2 := by
  by_cases hbare : s.bag = []
  · simp [Overfull, hbare, bagBytes_of_bare hbare]
  · simp [Overfull, hbare]

/-- A submission in form is refused for its bag if the text of that is too large. -/
theorem flaw?_eq_oversize (hform : s.manifest.structureFlaw? = none)
    (h : config.maxBagBytes < s.bagBytes) : s.flaw? config validator = some (s.oversize config) := by
  simp only [flaw?, hform, bagFlaw?, if_pos h]
  rfl

theorem flaw?_of_fits (hform : s.manifest.structureFlaw? = none)
    (h : ¬config.maxBagBytes < s.bagBytes) :
    s.flaw? config validator = (validator s.manifest).map .validationFailed := by
  simp only [flaw?, hform, bagFlaw?, if_neg h]
  rfl

/-! ### Other reasons -/

/-- A reason other than the bag. -/
def Spares (config : Config) (s : Submission) (stop : Stop Failure) : Prop :=
  stop ≠ .failed (s.oversize config)

/-- An input that is refused in other words is not refused for the bag. -/
theorem spares_invalidInput {reason : String} (h : reason.toList.head? ≠ some 'p') :
    s.Spares config (.failed (.invalidInput reason)) := by
  intro he
  obtain rfl := Failure.invalidInput.inj (Stop.failed.inj he)
  exact h (by simp [String.toList_append])

theorem late_spares : Late (s.Spares config) where
  missing _ h := nomatch h
  renamed _ _ := spares_invalidInput (by simp [String.toList_append])
  published _ h := nomatch h
  full _ _ h := nomatch h
  taken _ _ h := nomatch h
  conflict _ h := nomatch h

/-- No store refuses a request for its bag. -/
theorem spares_map (stop : Stop StorageError) : s.Spares config (stop.map Failure.ofStorage) := by
  cases stop with
  | crashed => exact fun h => nomatch h
  | failed e =>
      cases e with
      | invalidCursor raw => exact spares_invalidInput (by simp [String.toList_append])
      | _ => exact fun h => nomatch h

end Service.Submission

/-! ### Past the submission -/

section

variable {α : Type} {call : Instant → (c : Call) → α → Reply c.Answer × α} {clock : Nat → Moment}

/-- A task that fails for other reasons is not told to have too large a bag. -/
theorem Service.Submission.ne_oversize_of_failsFor {τ : Type} {s : Submission} {config : Config}
    {progress : Progress τ Change} (h : progress.FailsFor (s.Spares config)) :
    progress.result? ≠ some (failed (s.oversize config)) := by
  cases progress with
  | running phase => exact fun he => nomatch he
  | finished change =>
      intro he
      exact h _ (congrArg Progress.finished (Option.some_inj.1 he)) rfl

namespace Service.Edit

variable {e : Edit} (hform : e.manifest.structureFlaw? = none)
include hform

/-- An edit with too large a bag makes no call. -/
theorem start_of_oversize (h : e.config.maxBagBytes < e.submission.bagBytes) :
    e.start = .finished (failed (e.submission.oversize e.config)) := by
  simp only [start, Submission.flaw?_eq_oversize hform h]

/-- **An edit past its submission does not fail for the bag**, whatever it is answered. -/
theorem runAt_spares (h : ¬e.config.maxBagBytes < e.submission.bagBytes) (rounds made : Nat) (t : α) :
    (e.machine.runAt call clock rounds made e.start t).1 ≠
      some (failed (e.submission.oversize e.config)) := by
  have hstart : e.start.FailsFor (e.submission.Spares e.config) := by
    unfold start
    rw [Submission.flaw?_of_fits hform h]
    cases e.validator e.submission.manifest with
    | some reason =>
        rintro _ ⟨⟩ he
        cases he
    | none => exact failsFor_ownership fun stop he => absurd he (Ownership.start_ne_error _ stop)
  obtain ⟨progress, hend, hresult⟩ := e.machine.runAt_keeps call clock
    (fun progress _ => progress.FailsFor (e.submission.Spares e.config))
    (fun i phase t _ => failsFor_receive Submission.late_spares phase (clock i) fun stop _ =>
      Submission.spares_map stop) rounds made (s := t) hstart
  rw [hresult]
  exact Submission.ne_oversize_of_failsFor hend

end Service.Edit

namespace Service.Publish

variable {p : Publish}

/-- **A publish goes on from what the quota decides**, after the count if there has to be one. -/
theorem runAt_quota {outcome : Outcome Quota.Decision} {t t' : α}
    (h : Quota.machine.runAt call clock 1 0 p.quota.start t = (some outcome, t')) (size : Nat) :
    ∃ rounds made, p.machine.runAt call clock (p.rounds size) 0 p.start t =
      p.machine.runAt call clock rounds made (p.afterQuota outcome) t' := by
  obtain ⟨spare, hspare⟩ : ∃ spare, p.rounds size = spare + 1 :=
    ⟨_, (Nat.add_assoc _ _ _).trans (Nat.add_comm _ _)⟩
  rw [hspare]
  unfold start
  cases hstart : p.quota.start with
  | finished decided =>
      rw [hstart] at h
      obtain ⟨hdecided, rfl⟩ := Prod.mk.inj h
      obtain rfl := Option.some_inj.1 hdecided
      exact ⟨spare + 1, 0, rfl⟩
  | running q =>
      rw [hstart] at h
      have hcount : Quota.machine.runAt call clock 1 0 (.running q) t =
          (some ((ofReply (call (clock 0).now q.ask t).1).map (Quota.ofCount q.daily)),
            (call (clock 0).now q.ask t).2) := rfl
      obtain ⟨hdecided, rfl⟩ := Prod.mk.inj (hcount.symm.trans h)
      obtain rfl := Option.some_inj.1 hdecided
      exact ⟨spare, 1, rfl⟩

theorem afterQuota_allowed {decision : Quota.Decision} (h : decision.isAllowed = true) :
    p.afterQuota (.ok decision) = match p.submission.flaw? p.config p.validator with
      | some f => .finished (failed f)
      | none => (Ownership.start p.manifest).andThen Phase.ownership p.afterOwnership := by
  cases decision with
  | unlimited | allowed => rfl
  | exceeded | disabled => cases h

variable (hform : p.manifest.structureFlaw? = none) {decision : Quota.Decision}
  (hallowed : decision.isAllowed = true)
include hform hallowed

/-- A publish with too large a bag makes no more calls. -/
theorem afterQuota_of_oversize (h : p.config.maxBagBytes < p.submission.bagBytes) :
    p.afterQuota (.ok decision) = .finished (failed (p.submission.oversize p.config)) := by
  rw [afterQuota_allowed hallowed, Submission.flaw?_eq_oversize hform h]

/-- **A publish past its submission does not fail for the bag**, whatever it is answered. -/
theorem runAt_spares (h : ¬p.config.maxBagBytes < p.submission.bagBytes) (rounds made : Nat) (t : α) :
    (p.machine.runAt call clock rounds made (p.afterQuota (.ok decision)) t).1 ≠
      some (failed (p.submission.oversize p.config)) := by
  have hstart : (p.afterQuota (.ok decision)).FailsFor (p.submission.Spares p.config) := by
    rw [afterQuota_allowed hallowed, Submission.flaw?_of_fits hform h]
    cases p.validator p.submission.manifest with
    | some reason =>
        rintro _ ⟨⟩ he
        cases he
    | none =>
        have hchecked : p.Checked (p.submission.Spares p.config)
            ((Ownership.start p.manifest).andThen Phase.ownership p.afterOwnership) :=
          checked_andThen_ownership fun stop he => absurd he (Ownership.start_ne_error _ stop)
        exact hchecked.failsFor
  -- it never comes back to the quota, behind which alone the bag is looked at
  obtain ⟨progress, ⟨-, hend⟩, hresult⟩ := p.machine.runAt_keeps call clock
    (fun progress _ => Past True progress ∧ progress.FailsFor (p.submission.Spares p.config))
    (fun i phase t ⟨hpast, _⟩ => ⟨past_receive (hpast phase rfl).2 trivial _,
      failsFor_receive_late Submission.late_spares (hpast phase rfl).2 (clock i) fun stop _ =>
        Submission.spares_map stop⟩)
    rounds made (s := t) ⟨past_afterQuota fun _ _ _ => trivial, hstart⟩
  rw [hresult]
  exact Submission.ne_oversize_of_failsFor hend

end Service.Publish

end

namespace Registry

variable {σ : Type} [PacedStore σ]

/-- What the quota says of a publisher, and the registry after the count if there has to be one. -/
def decided (r : Registry σ) (clock : Nat → Moment) (publisher : Publisher) :
    Outcome Quota.Decision × Registry σ :=
  let q : Quota := ⟨r.config.dailyQuota, publisher⟩
  r.runTask Quota.machine q.start clock 1

/-- A publisher whom the quota says something of has been counted, if need be. -/
theorem runAt_of_decided {r : Registry σ} {clock : Nat → Moment} {publisher : Publisher}
    {decision : Quota.Decision} (h : (r.decided clock publisher).1 = .ok decision) :
    Quota.machine.runAt r.call clock 1 0 (Quota.start ⟨r.config.dailyQuota, publisher⟩) r.store =
      (some (.ok decision), (r.decided clock publisher).2.store) := by
  cases hrun : Quota.machine.runAt r.call clock 1 0 (Quota.start ⟨r.config.dailyQuota, publisher⟩)
    r.store with
  | mk result t =>
      have hdecided : r.decided clock publisher =
          (result.getD (.error .crashed), { r with store := t }) := by
        simp only [decided, runTask, hrun]
      rw [hdecided] at h ⊢
      cases result with
      | none => cases h
      | some outcome => rw [show outcome = .ok decision from h]

section

variable {τ : Type} {r : Registry σ} {m : Machine τ Change} {start : Progress τ Change}
  {clock : Nat → Moment} {rounds : Nat} {f : Failure}

theorem change_of_failed {t : σ}
    (h : m.runAt r.call clock rounds 0 start r.store = (some (failed f), t)) :
    r.change m start clock rounds = (failed f, { r with store := t }) := by
  rw [change_eq, h]
  rfl

theorem change_ne_failed
    (h : (m.runAt r.call clock rounds 0 start r.store).1 ≠ some (failed f)) :
    (r.change m start clock rounds).1 ≠ failed f := by
  rw [change_eq]
  intro he
  rcases hresult : (m.runAt r.call clock rounds 0 start r.store).1 with _ | _ | ⟨_, _⟩
  · rw [hresult] at he
    cases he
  · rw [hresult] at he h
    exact h (congrArg some (congrArg Except.error (Except.error.inj he)))
  · rw [hresult] at he
    cases he

end

/-- **Which requests are refused for their bags.**  Of the submissions in form these are the ones with a
bag whose text is longer than the settings allow, and if these do not even allow two bytes, those without
a bag as well.  An edit is then refused before any call is made, and a publish after the quota's count. -/
theorem bag_refused_iff (r : Registry σ) (clock : Nat → Moment) {s : Submission}
    (hform : s.manifest.structureFlaw? = none) :
    (∀ id editor,
      ((r.editAt clock id s editor).1 = failed (s.oversize r.config) ↔
        s.Overfull r.config ∨ s.bag = [] ∧ r.config.maxBagBytes < 2) ∧
      ((r.editAt clock id s editor).1 = failed (s.oversize r.config) →
        (r.editAt clock id s editor).2 = r)) ∧
    ∀ publisher decision, (r.decided clock publisher).1 = .ok decision → decision.isAllowed = true →
      ((r.publishAt clock s publisher).1 = failed (s.oversize r.config) ↔
        s.Overfull r.config ∨ s.bag = [] ∧ r.config.maxBagBytes < 2) ∧
      ((r.publishAt clock s publisher).1 = failed (s.oversize r.config) →
        (r.publishAt clock s publisher).2 = (r.decided clock publisher).2) := by
  simp only [← Submission.lt_bagBytes_iff]
  refine ⟨fun id editor => ?_, fun publisher decision hdecided hallowed => ?_⟩
  · let e : Edit := ⟨r.config, r.validator, id, s, editor⟩
    by_cases hlarge : r.config.maxBagBytes < s.bagBytes
    · have hrun : e.machine.runAt r.call clock (e.rounds (PacedStore.size r.store)) 0 e.start r.store =
          (some (failed (s.oversize r.config)), r.store) := by
        rw [e.start_of_oversize hform hlarge, Machine.runAt_finished]
      have hedit : r.editAt clock id s editor = (failed (s.oversize r.config), r) :=
        change_of_failed hrun
      rw [hedit]
      exact ⟨iff_of_true rfl hlarge, fun _ => rfl⟩
    · have hedit : (r.editAt clock id s editor).1 ≠ failed (s.oversize r.config) :=
        change_ne_failed (e.runAt_spares hform hlarge _ _ _)
      exact ⟨iff_of_false hedit hlarge, fun h => absurd h hedit⟩
  · let p : Publish := ⟨r.config, r.validator, s, publisher⟩
    obtain ⟨rounds, made, hrun⟩ := p.runAt_quota (runAt_of_decided hdecided)
      (PacedStore.size r.store)
    by_cases hlarge : r.config.maxBagBytes < s.bagBytes
    · rw [p.afterQuota_of_oversize hform hallowed hlarge, Machine.runAt_finished] at hrun
      have hpublish : r.publishAt clock s publisher =
          (failed (s.oversize r.config), (r.decided clock publisher).2) := change_of_failed hrun
      rw [hpublish]
      exact ⟨iff_of_true rfl hlarge, fun _ => rfl⟩
    · have hspares : (p.machine.runAt r.call clock (p.rounds (PacedStore.size r.store)) 0 p.start
          r.store).1 ≠ some (failed (s.oversize r.config)) := by
        rw [hrun]
        exact p.runAt_spares hform hallowed hlarge rounds made _
      have hpublish : (r.publishAt clock s publisher).1 ≠ failed (s.oversize r.config) :=
        change_ne_failed hspares
      exact ⟨iff_of_false hpublish hlarge, fun h => absurd h hpublish⟩

/-- A registry without records whose bags may have so many bytes and that accepts one publish a day. -/
def capped (most : Nat) : Registry Memory where
  config := { maxBagBytes := most, dailyQuota := 1 }
  validator _ := none
  store := {}
  events := { room := 1 }

/-- A bag of nine characters, one of which takes two bytes, needs room for ten. -/
theorem bag_refused_iff_accented :
    let s : Submission := ⟨Race.manifest "1.0.0" "", [("k", .text "é")]⟩
    let clock : Nat → Moment := fun _ => ⟨.epoch, ⟨0⟩⟩
    s.manifest.structureFlaw? = none ∧ (Json.object s.bag).compress = "\x7b\x22k\x22:\x22é\x22\x7d" ∧
      s.bagBytes = 10 ∧
      (∀ most, ((capped most).decided clock { subject := "s" }).1 = .ok (.allowed 0 1)) ∧
      ((capped 9).publishAt clock s { subject := "s" }).1 = failed (s.oversize (capped 9).config) ∧
      ((capped 9).editAt clock ⟨0⟩ s { subject := "s" }).1 = failed (s.oversize (capped 9).config) ∧
      ((capped 10).publishAt clock s { subject := "s" }).1 ≠
        failed (s.oversize (capped 10).config) ∧
      ((capped 10).editAt clock ⟨0⟩ s { subject := "s" }).1 ≠
        failed (s.oversize (capped 10).config) := by
  intro s clock
  have hform : s.manifest.structureFlaw? = none := by decide +kernel
  have hbytes : s.bagBytes = 10 := by decide +kernel
  have hdecided : ∀ most, ((capped most).decided clock { subject := "s" }).1 = .ok (.allowed 0 1) :=
    fun _ => rfl
  have hover : s.Overfull (capped 9).config := ⟨List.cons_ne_nil _ _, hbytes ▸ Nat.lt_succ_self 9⟩
  have hfits : ¬(s.Overfull (capped 10).config ∨
      s.bag = [] ∧ (capped 10).config.maxBagBytes < 2) := by
    rintro (⟨-, hlarge⟩ | ⟨hbare, -⟩)
    · rw [hbytes] at hlarge
      exact Nat.lt_irrefl 10 hlarge
    · cases hbare
  obtain ⟨hedit, hpublish⟩ := bag_refused_iff (capped 9) clock hform
  obtain ⟨hedit', hpublish'⟩ := bag_refused_iff (capped 10) clock hform
  exact ⟨hform, by decide +kernel, hbytes, hdecided,
    (hpublish _ _ (hdecided 9) rfl).1.2 (.inl hover), (hedit _ _).1.2 (.inl hover),
    fun h => hfits ((hpublish' _ _ (hdecided 10) rfl).1.1 h), fun h => hfits ((hedit' _ _).1.1 h)⟩

/-- **Where no bytes are allowed for a bag, who submits none is refused for it.** -/
theorem exists_bare_refused :
    let s : Submission := ⟨Race.manifest "1.0.0" "", []⟩
    let clock : Nat → Moment := fun _ => ⟨.epoch, ⟨0⟩⟩
    s.manifest.structureFlaw? = none ∧
      ((capped 0).decided clock { subject := "s" }).1 = .ok (.allowed 0 1) ∧
      ((capped 0).publishAt clock s { subject := "s" }).1 =
        failed (.invalidInput "publisher extensions are 2 bytes, limit is 0") ∧
      ((capped 0).editAt clock ⟨0⟩ s { subject := "s" }).1 =
        failed (.invalidInput "publisher extensions are 2 bytes, limit is 0") := by
  refine ⟨by decide +kernel, rfl, ?_, ?_⟩
  · rfl
  · rfl

end Registry

end ManifestRegistry
