/-
**What a failed publish leaves behind.**

A publish that is answered with an error has either written nothing or made the first of the two writes
of its last commit, and never goes on after that.  Whatever others do to the store between its calls, its
error tells that the commit is half done exactly if something it has written is still there; but a commit
that a deadline has severed leaves the new version behind and tells of a timeout.

Main definitions:

* `Service.Contact`, `Service.Watched` — the calls of a task and what they did to a store that others use
  as well;
* `Service.Watched.Remains` — **something that a task has written is still there**;
* `Service.Partial` — an error that tells of a commit half done.

Main results:

* `Service.Publish.watched_cases` — what a publish has written when it fails;
* `Service.Publish.remainders_told_iff` — **when the error tells what remains**;
* `Service.Publish.exists_untold_remainder` — a version that stays behind a timeout.
-/

import ManifestRegistry.Proofs.Service.Passing
import ManifestRegistry.Proofs.Service.Reasons
import ManifestRegistry.Proofs.Storage.Halfway

set_option relaxedAutoImplicit false
set_option autoImplicit false

namespace ManifestRegistry

namespace Service

open Storage

variable {σ : Type}

/-! ### Calls under watch -/

/-- A call that a task has made, and the store before and after it. -/
structure Contact (σ : Type) where
  call : Call
  before : σ
  after : σ

/-- A store that others use as well, and the calls of one task so far. -/
structure Watched (σ : Type) where
  store : σ
  contacts : List (Contact σ) := []

namespace Watched

/-- A call within a deadline, after whatever others have done since the call before it. -/
def call [PacedStore σ] (others : Nat → σ → σ) (ms : Nat) (now : Instant) (c : Call) (w : Watched σ) :
    Reply c.Answer × Watched σ :=
  let before := others w.contacts.length w.store
  let (reply, after) := within ms c now before
  (reply, ⟨after, w.contacts ++ [⟨c, before, after⟩]⟩)

variable [Halfway σ]

/-- A call of the task has put a record in a place, and it still is there. -/
def Remains (w : Watched σ) : Prop :=
  ∃ k ∈ w.contacts, ∃ (i : Nat) (r : Record), (Halfway.records k.before)[i]? ≠ some r ∧
    (Halfway.records k.after)[i]? = some r ∧ (Halfway.records w.store)[i]? = some r

end Watched

/-- A contact that is a commit severed by a deadline. -/
def Contact.IsSevered [Halfway σ] (ms : Nat) (k : Contact σ) : Prop :=
  match k.call with
  | .commit record previous => Halfway.Severs ms record previous k.before
  | _ => False

/-- An error that tells of a commit half done. -/
def Partial (stop : Stop Failure) : Prop := ∃ reason, stop = .failed (.partialCommit reason)

/-- All that a store is not to blame for tells of no commit. -/
theorem usual_not_partial : Usual fun stop => ¬Partial stop where
  client f hf := by
    rintro ⟨reason, h⟩
    obtain rfl := Stop.failed.inj h
    cases hf
  conflict reason := fun ⟨_, h⟩ => nomatch h
  crashed := fun ⟨_, h⟩ => nomatch h

/-- A store's reason tells of a commit half done if it is such a one. -/
theorem not_partial_map {stop : Stop StorageError} (h : ∀ reason, stop ≠ .failed (.partialCommit reason)) :
    ¬Partial (stop.map Failure.ofStorage) := by
  rintro ⟨reason, he⟩
  cases stop with
  | crashed => cases he
  | failed e =>
      cases e with
      | partialCommit reason' => exact h reason' rfl
      | _ => cases he

namespace Publish

variable {p : Publish}

/-- A publish only reads, but for its commits. -/
theorem ask_cases (phase : Phase) : (ask phase).Reads ∨ ∃ left plan, phase = .commit left plan := by
  cases phase with
  | quota q => exact .inl trivial
  | ownership o => exact .inl trivial
  | lookup left c => exact .inl trivial
  | commit left plan => exact .inr ⟨left, plan, rfl⟩

theorem failsFor_start {Reason : Stop Failure → Prop} (h : Usual Reason) : p.start.FailsFor Reason :=
  (checked_start h.client).failsFor

/-! ### The whole run -/

variable [Halfway σ]

/-- What a publish has done that has ended with an error: nothing is written; or something it has
written remains, and the error tells so; or that remains after a commit that was severed, and the error
does not tell. -/
inductive Upshot (ms : Nat) (w : Watched σ) (stop : Stop Failure) : Prop
  | nothing (hnone : ¬w.Remains) (htold : ¬Partial stop) (hwhole : ∀ k ∈ w.contacts, ¬k.IsSevered ms)
  | told (hsome : w.Remains) (htold : Partial stop) (hwhole : ∀ k ∈ w.contacts, ¬k.IsSevered ms)
  | untold (hsome : w.Remains) (htold : ¬Partial stop) (hcut : ∃ k ∈ w.contacts, k.IsSevered ms)

/-- No call so far has written anything. -/
def Idle (ms : Nat) (w : Watched σ) : Prop :=
  ∀ k ∈ w.contacts, Halfway.records k.after = Halfway.records k.before ∧ ¬k.IsSevered ms

theorem Idle.not_remains {ms : Nat} {w : Watched σ} (h : Idle ms w) : ¬w.Remains := by
  rintro ⟨k, hk, i, r, hbefore, hafter, -⟩
  rw [(h k hk).1] at hafter
  exact hbefore hafter

theorem Idle.append {ms : Nat} {w : Watched σ} (h : Idle ms w) {k : Contact σ} {s : σ}
    (hkept : Halfway.records k.after = Halfway.records k.before) (hwhole : ¬k.IsSevered ms) :
    Idle ms ⟨s, w.contacts ++ [k]⟩ := by
  intro k' hk'
  rcases List.mem_append.1 hk' with hk' | hk'
  · exact h k' hk'
  · rw [List.mem_singleton.1 hk']
    exact ⟨hkept, hwhole⟩

theorem remains_append (w : Watched σ) {k : Contact σ}
    (h : (Halfway.records k.before).length < (Halfway.records k.after).length) :
    (Watched.mk k.after (w.contacts ++ [k])).Remains := by
  refine ⟨k, List.mem_append_right _ List.mem_cons_self, (Halfway.records k.before).length,
    (Halfway.records k.after)[(Halfway.records k.before).length], ?_, ?_, ?_⟩
  · rw [List.getElem?_eq_none (Nat.le_refl _)]
    exact nofun
  · exact List.getElem?_eq_getElem h
  · exact List.getElem?_eq_getElem h

/-- **What one call of a publish that has written nothing yet comes to**: nothing is written either, and
the publish has not failed with news of a commit; or it has ended with something written. -/
theorem watched_step (others : Nat → σ → σ) (ms : Nat) (moment : Moment) (phase : Phase) {w w' : Watched σ}
    (h : Idle ms w) {progress : Progress Phase Change}
    (hstep : p.machine.step (Watched.call others ms moment.now) moment phase w = (progress, w')) :
    (progress.FailsFor (fun stop => ¬Partial stop) ∧ Idle ms w') ∨
      (∃ change, progress = .finished (.ok change)) ∨
      ∃ stop, progress = .finished (.error stop) ∧ Upshot ms w' stop := by
  have hresult : (p.receive phase moment
        (within ms (ask phase) moment.now (others w.contacts.length w.store)).1,
      Watched.mk (within ms (ask phase) moment.now (others w.contacts.length w.store)).2
        (w.contacts ++ [⟨ask phase, others w.contacts.length w.store,
          (within ms (ask phase) moment.now (others w.contacts.length w.store)).2⟩])) =
        (progress, w') := hstep
  obtain ⟨rfl, rfl⟩ := Prod.mk.inj hresult
  rcases ask_cases phase with hreads | ⟨left, plan, rfl⟩
  · obtain ⟨hkept, htold⟩ :=
      Halfway.within_reads hreads ms moment.now (others w.contacts.length w.store)
    refine .inl ⟨failsFor_receive usual_not_partial phase moment ?_, h.append hkept ?_⟩
    · rintro stop hstop
      exact not_partial_map fun reason he => htold reason (hstop.trans (congrArg Except.error he))
    · cases phase with
      | commit left plan => exact hreads.elim
      | _ => exact id
  · rcases hreply : within ms (ask (.commit left plan)) moment.now
        (others w.contacts.length w.store) with ⟨reply, after⟩
    cases reply with
    | ok created => exact .inr (.inl ⟨_, rfl⟩)
    | error stop =>
        cases Halfway.within_commit hreply with
        | nothing _ hkept hwhole htold =>
            refine .inl ⟨failsFor_receive usual_not_partial (.commit left plan) moment ?_,
              h.append hkept hwhole⟩
            rintro stop' hstop
            obtain rfl := Except.error.inj hstop
            exact not_partial_map htold
        | reported reason hadded hwhole =>
            refine .inr (.inr ⟨_, rfl, .told (remains_append w hadded) ⟨reason, rfl⟩ ?_⟩)
            intro k hk
            rcases List.mem_append.1 hk with hk | hk
            · exact (h k hk).2
            · rw [List.mem_singleton.1 hk]
              exact hwhole
        | severed ms' hadded hcut =>
            exact .inr (.inr ⟨_, rfl, .untold (remains_append w hadded) (fun ⟨_, he⟩ => nomatch he)
              ⟨_, List.mem_append_right _ List.mem_cons_self, hcut⟩⟩)

/-- **What a publish has done when it has failed**, whatever others do between its calls. -/
theorem watched_cases (others : Nat → σ → σ) (ms : Nat) (clock : Nat → Moment) (rounds made : Nat)
    {progress : Progress Phase Change} (hprogress : progress.FailsFor fun stop => ¬Partial stop)
    {w w' : Watched σ} (h : Idle ms w) {stop : Stop Failure}
    (hrun : p.machine.runAt (Watched.call others ms) clock rounds made progress w =
      (some (.error stop), w')) : Upshot ms w' stop := by
  induction rounds generalizing made progress w with
  | zero =>
      cases progress with
      | running phase => cases hrun
      | finished change =>
          obtain ⟨hchange, rfl⟩ := Prod.mk.inj hrun
          obtain rfl := Option.some_inj.1 hchange
          exact .nothing h.not_remains (hprogress stop rfl) fun k hk => (h k hk).2
  | succ rounds ih =>
      cases progress with
      | finished change =>
          obtain ⟨hchange, rfl⟩ := Prod.mk.inj hrun
          obtain rfl := Option.some_inj.1 hchange
          exact .nothing h.not_remains (hprogress stop rfl) fun k hk => (h k hk).2
      | running phase =>
          rcases hstep : p.machine.step (Watched.call others ms (clock made).now) (clock made) phase w
            with ⟨next, w₁⟩
          simp only [Machine.runAt, hstep] at hrun
          rcases watched_step others ms (clock made) phase h hstep with
            ⟨hnext, hidle⟩ | ⟨change, rfl⟩ | ⟨stop', rfl, hupshot⟩
          · exact ih (made + 1) hnext hidle hrun
          · rw [Machine.runAt_finished] at hrun
            cases hrun
          · rw [Machine.runAt_finished] at hrun
            obtain ⟨hchange, rfl⟩ := Prod.mk.inj hrun
            obtain rfl := Except.error.inj (Option.some_inj.1 hchange)
            exact hupshot

/-- **When the error of a publish tells what remains.**  On a two-write store, whose demotions may be made
to fail at any time, it tells of a commit half done exactly if something that the publish has written is
still there.  On a slow store that is so exactly if no deadline has severed a commit. -/
theorem remainders_told_iff (p : Publish) (ms : Nat) (clock : Nat → Moment) (rounds : Nat) :
    (∀ (others : Nat → Switching → Switching) (s : Switching) (stop : Stop Failure)
      (w : Watched Switching), p.machine.runAt (Watched.call others ms) clock rounds 0 p.start ⟨s, []⟩ =
        (some (.error stop), w) → (w.Remains ↔ Partial stop)) ∧
    ∀ (others : Nat → Slow → Slow) (s : Slow) (stop : Stop Failure) (w : Watched Slow),
      p.machine.runAt (Watched.call others ms) clock rounds 0 p.start ⟨s, []⟩ = (some (.error stop), w) →
        ((w.Remains ↔ Partial stop) ↔ ∀ k ∈ w.contacts, ¬k.IsSevered ms) := by
  have hstart : p.start.FailsFor fun stop => ¬Partial stop := failsFor_start usual_not_partial
  constructor
  · intro others s stop w hrun
    cases watched_cases others ms clock rounds 0 hstart (fun _ hk => (List.not_mem_nil hk).elim) hrun with
    | nothing hnone htold _ => exact iff_of_false hnone htold
    | told hsome htold _ => exact iff_of_true hsome htold
    | untold _ _ hcut =>
        -- no deadline ever severs a commit here
        obtain ⟨k, -, hcut⟩ := hcut
        unfold Contact.IsSevered at hcut
        split at hcut <;> exact hcut.elim
  · intro others s stop w hrun
    cases watched_cases others ms clock rounds 0 hstart (fun _ hk => (List.not_mem_nil hk).elim) hrun with
    | nothing hnone htold hwhole => exact iff_of_true (iff_of_false hnone htold) hwhole
    | told hsome htold hwhole => exact iff_of_true (iff_of_true hsome htold) hwhole
    | untold hsome htold hcut =>
        obtain ⟨k, hk, hcut⟩ := hcut
        exact iff_of_false (fun h => htold (h.1 hsome)) fun hwhole => hwhole k hk hcut

/-! ### A publish in small -/

/-- The version that is there. -/
def oldest : Record where
  manifest := Race.manifest "1.0.0" ""
  registration := .new ⟨1⟩ .epoch true

/-- A publish of the next version, with what others do between its calls. -/
def watchedRun (others : Nat → σ → σ) (ms : Nat) (s : σ) : Option Change × Watched σ :=
  (Race.publish "2.0.0").machine.runAt (Watched.call others ms) (fun _ => ⟨.epoch, ⟨9⟩⟩) 9 0
    (Race.publish "2.0.0").start ⟨s, []⟩

/-- A store whose demotions fail from the next commit on. -/
def failing : Switching := ⟨{ inner := ⟨[oldest], false⟩ }, true⟩

/-- A store with a wait of ten milliseconds before each call. -/
def waiting : Slow := ⟨⟨[oldest], false⟩, 10⟩

/-- A commit half done is told as such, with the new version in the store; and a publish whose first
reading is cut off leaves nothing. -/
theorem remainders_told_failing :
    (∃ reason, (watchedRun (fun _ s => s) 15 failing).1 = some (.error (.failed (.partialCommit reason)))) ∧
    (watchedRun (fun _ s => s) 15 failing).2.Remains ∧
    (watchedRun (fun _ s => s) 5 waiting).1 = some (.error (.failed (.storageTimeout 5))) ∧
    ¬(watchedRun (fun _ s => s) 5 waiting).2.Remains := by
  obtain ⟨htwo, -⟩ := remainders_told_iff (Race.publish "2.0.0") 15 (fun _ => ⟨.epoch, ⟨9⟩⟩) 9
  obtain ⟨-, hslow⟩ := remainders_told_iff (Race.publish "2.0.0") 5 (fun _ => ⟨.epoch, ⟨9⟩⟩) 9
  refine ⟨⟨_, rfl⟩, (htwo (fun _ s => s) failing _ _ rfl).2 ⟨_, rfl⟩, rfl, fun hsome => ?_⟩
  obtain ⟨reason, hreason⟩ := ((hslow (fun _ s => s) waiting (.failed (.storageTimeout 5)) _ rfl).2
    fun k hk => by
      obtain rfl := List.mem_singleton.1 hk
      exact id).1 hsome
  cases hreason

/-- Someone else demotes the version that is there before the second call. -/
def demoting (n : Nat) (s : Slow) : Slow :=
  if n = 1 then { s with inner := (s.inner.update oldest.id (oldest.demoted .epoch)).2 } else s

/-- **A deadline may leave a version behind that no error tells of**: it expires between the two writes of
a commit. -/
theorem exists_untold_remainder :
    (watchedRun demoting 15 waiting).1 = some (.error (.failed (.storageTimeout 15))) ∧
    (watchedRun demoting 15 waiting).2.Remains ∧ ¬Partial (.failed (.storageTimeout 15)) := by
  refine ⟨rfl, ?_, fun ⟨_, h⟩ => nomatch h⟩
  exact ⟨_, List.mem_cons_of_mem _ List.mem_cons_self, 1, _, nofun, rfl, rfl⟩

end Publish

end Service

end ManifestRegistry
