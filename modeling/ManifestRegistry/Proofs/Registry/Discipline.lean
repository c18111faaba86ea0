/-
**How a publish behaves before any store.**

However a store may answer, a publish asks it for no more commits than there are attempts.  It starts over
after a commit that has lost against another writer, if attempts remain, and then reads all versions again
before it asks for anything else; any other call that fails ends it at once, for the reason of that call.
Listeners hear of a version exactly if its commit went through, and of a takeover exactly if the store says
that the version is the latest one.  All that is asked of the store is that its pages come to an end.

Main definitions:

* `Storage.Oracle` — a store that answers by what it has been asked and has answered before;
* `Service.Publish.Attempt` — the calls of an attempt, and of those after it;
* `Service.Publish.Disciplined` — **what a publish says to a store**.

Main results:

* `Service.Publish.talks_retry`, `Service.Publish.talks_start` — a publish ends, and has been disciplined;
* `Registry.publish_disciplined` — **so is a publish in a registry before any store**.
-/

import ManifestRegistry.Proofs.Registry.Chronicle
import ManifestRegistry.Proofs.Registry.TwoWrite
import ManifestRegistry.Proofs.Service.Conversation

set_option relaxedAutoImplicit false
set_option autoImplicit false

namespace ManifestRegistry

open Service Storage

/-! ### A store of some conduct -/

/-- A store that answers by what it has been asked and has answered before. -/
structure Storage.Oracle where
  answer : Conduct
  /-- How many records it claims to keep. -/
  size : Nat
  past : List Exchange := []

instance : Store Oracle where
  call c now o := (o.answer o.past now c, { o with past := (o.answer.call now c o.past).2 })
  size := Oracle.size

namespace Service.Publish

/-! ### Discipline -/

/-- All versions of the name are read, up to the ceiling, or a page of them cannot be read. -/
def Surveys (p : Publish) (es : List Exchange) (result : Reply (List Record)) : Prop :=
  Paging { name := some p.manifest.name } (lookup p.config p.manifest.name).pageSize
    (lookup p.config p.manifest.name).ceiling none es result

/-- The calls of an attempt, and of those after it: all versions of the name are read, and whatever is asked
next is a commit that was planned from them. -/
def Attempt (p : Publish) (clock : Nat → Moment) (es : List Exchange) : Prop :=
  ∃ read rest result, es = read ++ rest ∧ p.Surveys read result ∧
    (rest = [] ∨ ∃ existing i plan x later, result = .ok existing ∧ p.plan (clock i) existing = .ok plan ∧
      rest = x :: later ∧ x.call = .commit plan.record plan.demoted)

/-- What a publish comes to whose last attempt has lost. -/
def surrender (p : Publish) (reason : String) : Change :=
  failed (.storage (.conflict (p.manifest.name ++ " " ++ p.manifest.version ++
    ": gave up after " ++ toString maxAttempts ++ " attempts: " ++ reason)))

/-- **What a publish says to a store**, if it may try to commit so often, and what it comes to. -/
structure Disciplined (p : Publish) (clock : Nat → Moment) (most : Nat) (es : List Exchange)
    (change : Change) : Prop where
  /-- It counts publishes, reads pages and commits. -/
  asked : ∀ x ∈ es, x.Asks ∨ x.isCommit = true
  few : es.countP Exchange.isCommit ≤ most
  /-- A call that fails ends it at once, for the reason of the call, unless it is a commit that has lost. -/
  stopped : ∀ before x after stop, es = before ++ x :: after → x.reply = .error stop → ¬x.Lost →
    after = [] ∧ change = .error (stop.map Failure.ofStorage)
  /-- No commit but one that has lost is followed by another call, and only if attempts remain; the calls
  that follow are another attempt. -/
  retried : ∀ before x after, es = before ++ x :: after → x.isCommit = true → after ≠ [] →
    x.Lost ∧ before.countP Exchange.isCommit + 1 < most ∧ p.Attempt clock after
  /-- It gives up after its last attempt only. -/
  gaveUp : ∀ before x reason, es = before ++ [x] → x.LostFor reason →
    before.countP Exchange.isCommit + 1 = most ∧ change = p.surrender reason
  /-- It succeeds with a commit that went through, of which listeners are told then. -/
  published : ∀ created told, change = .ok (created, told) → ∃ before now record previous,
    es = before ++ [⟨now, .commit record previous, .ok created⟩] ∧
    told = .published created.id created.name created.version created.isLatest p.publisher.subject
        created.publishedAt ::
      if created.isLatest then
        [.latestChanged created.id created.name (previous.map Record.version) created.version]
      else []
  /-- A commit that went through is a success. -/
  stored : ∀ before now record previous created,
    es = before ++ [⟨now, .commit record previous, .ok created⟩] → ∃ told, change = .ok (created, told)

variable {p : Publish} {clock : Nat → Moment} {most : Nat} {es front : List Exchange} {x : Exchange}
  {change : Change}

namespace Disciplined

/-- A call that has not ended a publish adds to its commits if it is one. -/
theorem cons (h : p.Disciplined clock most es change) (more : Nat)
    (hcount : ∀ es, (x :: es).countP Exchange.isCommit = es.countP Exchange.isCommit + more)
    (hasked : x.Asks ∨ x.isCommit = true) (hstop : ∀ stop, x.reply = .error stop → x.Lost)
    (hretried : x.isCommit = true → es ≠ [] → x.Lost ∧ 1 < most + more ∧ p.Attempt clock es)
    (hgaveUp : ∀ reason, x.LostFor reason → es = [] → 1 = most + more ∧ change = p.surrender reason)
    (hstored : ∀ now record previous created, x ≠ ⟨now, .commit record previous, .ok created⟩) :
    p.Disciplined clock (most + more) (x :: es) change where
  asked := List.forall_mem_cons.2 ⟨hasked, h.asked⟩
  few := by
    rw [hcount]
    exact Nat.add_le_add_right h.few more
  stopped before y after stop hes hreply hlost := by
    rcases List.cons_eq_append_iff.1 hes with ⟨rfl, hy⟩ | ⟨before, rfl, hrest⟩
    · obtain ⟨rfl, rfl⟩ := List.cons.inj hy
      exact absurd (hstop stop hreply) hlost
    · exact h.stopped before y after stop hrest hreply hlost
  retried before y after hes hcommit hafter := by
    rcases List.cons_eq_append_iff.1 hes with ⟨rfl, hy⟩ | ⟨before, rfl, hrest⟩
    · obtain ⟨rfl, rfl⟩ := List.cons.inj hy
      exact hretried hcommit hafter
    · obtain ⟨hlost, hless, hattempt⟩ := h.retried before y after hrest hcommit hafter
      rw [hcount]
      exact ⟨hlost, by omega, hattempt⟩
  gaveUp before y reason hes hlost := by
    rcases List.cons_eq_append_iff.1 hes with ⟨rfl, hy⟩ | ⟨before, rfl, hrest⟩
    · obtain ⟨rfl, rfl⟩ := List.cons.inj hy
      exact hgaveUp reason hlost rfl
    · obtain ⟨hlast, hchange⟩ := h.gaveUp before y reason hrest hlost
      rw [hcount]
      exact ⟨by omega, hchange⟩
  published created told hchange := by
    obtain ⟨before, now, record, previous, rfl, htold⟩ := h.published created told hchange
    exact ⟨x :: before, now, record, previous, rfl, htold⟩
  stored before now record previous created hes := by
    rcases List.cons_eq_append_iff.1 hes with ⟨rfl, hy⟩ | ⟨before, rfl, hrest⟩
    · exact absurd (List.cons.inj hy).1.symm (hstored now record previous created)
    · exact h.stored before now record previous created hrest

/-- Reading something first does no harm. -/
theorem cons_read (h : p.Disciplined clock most es change) (hx : x.Read) :
    p.Disciplined clock most (x :: es) change := by
  obtain ⟨hasks, a, ha⟩ := hx
  refine h.cons 0 (fun es => List.countP_cons_of_neg (Bool.eq_false_iff.1 hasks.isCommit)) (.inl hasks)
    ?_ ?_ ?_ ?_
  · intro stop hstop
    cases hstop.symm.trans ha
  · intro hcommit
    cases hcommit.symm.trans hasks.isCommit
  · exact fun reason hlost => absurd ⟨reason, hlost⟩ hasks.not_lost
  · rintro now record previous created rfl
    exact nomatch hasks.isCommit

/-- Reading whatever there is to read first does no harm. -/
theorem append_reads (h : p.Disciplined clock most es change) (hfront : ∀ x ∈ front, x.Read) :
    p.Disciplined clock most (front ++ es) change := by
  induction front with
  | nil => exact h
  | cons x front ih =>
      obtain ⟨hx, hrest⟩ := List.forall_mem_cons.1 hfront
      exact (ih hrest).cons_read hx

theorem cons_lost (h : p.Disciplined clock most es change) {reason : String} (hx : x.LostFor reason)
    (hnext : most = 0 ∧ es = [] ∧ change = p.surrender reason ∨
      0 < most ∧ es ≠ [] ∧ p.Attempt clock es) : p.Disciplined clock (most + 1) (x :: es) change := by
  refine h.cons 1 (fun es => List.countP_cons_of_pos hx.isCommit) (.inr hx.isCommit)
    (fun _ _ => ⟨reason, hx⟩) ?_ ?_ ?_
  · intro _ hes
    rcases hnext with ⟨-, hnone, -⟩ | ⟨hmost, -, hattempt⟩
    · exact absurd hnone hes
    · exact ⟨⟨reason, hx⟩, Nat.succ_lt_succ hmost, hattempt⟩
  · intro reason' hx' hes
    rcases hnext with ⟨rfl, -, rfl⟩ | ⟨-, hsome, -⟩
    · obtain rfl : reason = reason' := hx.unique hx'
      exact ⟨rfl, rfl⟩
    · exact absurd hes hsome
  · rintro now record previous created rfl
    exact nomatch hx

theorem nil (stop : Stop Failure) : p.Disciplined clock most [] (.error stop) where
  asked _ h := nomatch h
  few := Nat.zero_le _
  stopped before x after stop hes := absurd hes.symm (by simp)
  retried before x after hes := absurd hes.symm (by simp)
  gaveUp before x reason hes := absurd hes.symm (by simp)
  published created told h := nomatch h
  stored before now record previous created hes := absurd hes.symm (by simp)

theorem singleton (hasked : x.Asks ∨ x.isCommit = true) (hmost : 0 < most) (hlost : ¬x.Lost)
    (hstop : ∀ stop, x.reply = .error stop → change = .error (stop.map Failure.ofStorage))
    (hpublished : ∀ created told, change = .ok (created, told) → ∃ now record previous,
      x = ⟨now, .commit record previous, .ok created⟩ ∧ told = p.events created previous)
    (hstored : ∀ now record previous created, x = ⟨now, .commit record previous, .ok created⟩ →
      ∃ told, change = .ok (created, told)) : p.Disciplined clock most [x] change := by
  have hone : ∀ {before after : List Exchange} {y : Exchange}, [x] = before ++ y :: after →
      before = [] ∧ x = y ∧ after = [] := by
    intro before after y hes
    rcases List.cons_eq_append_iff.1 hes with ⟨rfl, hyx⟩ | ⟨before, rfl, hrest⟩
    · obtain ⟨rfl, rfl⟩ := List.cons.inj hyx
      exact ⟨rfl, rfl, rfl⟩
    · simp at hrest
  refine ⟨List.forall_mem_singleton.2 hasked, Nat.le_trans List.countP_le_length hmost, ?_, ?_, ?_, ?_, ?_⟩
  · intro before y after stop hes hreply _
    obtain ⟨-, rfl, rfl⟩ := hone hes
    exact ⟨rfl, hstop stop hreply⟩
  · intro before y after hes _ hafter
    exact absurd (hone hes).2.2 hafter
  · intro before y reason hes hy
    obtain ⟨-, rfl, -⟩ := hone hes
    exact absurd ⟨reason, hy⟩ hlost
  · intro created told hchange
    obtain ⟨now, record, previous, rfl, rfl⟩ := hpublished created told hchange
    exact ⟨[], now, record, previous, rfl, rfl⟩
  · intro before now record previous created hes
    exact hstored now record previous created (hone hes).2.1

theorem failed {stop : Stop StorageError} (hasked : x.Asks ∨ x.isCommit = true) (hmost : 0 < most)
    (hx : x.reply = .error stop) (hlost : ¬x.Lost) :
    p.Disciplined clock most [x] (.error (stop.map Failure.ofStorage)) := by
  refine singleton hasked hmost hlost ?_ (fun _ _ h => nomatch h) ?_
  · intro stop' hstop
    rw [Except.error.inj (hx.symm.trans hstop)]
  · rintro now record previous created rfl
    cases hx

theorem done (hmost : 0 < most) (now : Instant) (plan : Plan) (created : Record) :
    p.Disciplined clock most [⟨now, .commit plan.record plan.demoted, .ok created⟩]
      (.ok (created, p.events created plan.demoted)) := by
  refine singleton (.inr rfl) hmost (fun ⟨_, h⟩ => nomatch h) (fun _ h => nomatch h) ?_ ?_
  · rintro _ _ ⟨⟩
    exact ⟨now, plan.record, plan.demoted, rfl, rfl⟩
  · rintro _ _ _ _ ⟨⟩
    exact ⟨_, rfl⟩

/-- A part of a publish that only asks has been disciplined if it ends the publish. -/
theorem of_consulted {α : Type} {stop : Stop Failure} (hmost : 0 < most)
    (h : Consulted es (.error stop : Outcome α)) : p.Disciplined clock most es (.error stop) := by
  generalize houtcome : (.error stop : Outcome α) = outcome at h
  cases h with
  | answered _ _ => cases houtcome
  | refused hread f =>
      obtain rfl := Except.error.inj houtcome
      exact List.append_nil es ▸ (nil _).append_reads hread
  | broken _ hread hasked hstop =>
      obtain rfl := Except.error.inj houtcome
      exact (failed (.inl hasked) hmost hstop hasked.not_lost).append_reads hread

end Disciplined

/-! ### The task -/

section

variable {answer : Conduct} {past : List Exchange}

/-- A commit that was not answered has lost, and there may be another attempt, or it ends the publish. -/
theorem receive_refusal (left : Nat) (plan : Plan) (now : Instant) (moment : Moment)
    (stop : Stop StorageError) :
    (∃ reason, Exchange.LostFor ⟨now, .commit plan.record plan.demoted, .error stop⟩ reason ∧
      p.receive (.commit left plan) moment (.error stop) = p.retry (left - 1) reason) ∨
    (¬Exchange.Lost ⟨now, .commit plan.record plan.demoted, .error stop⟩ ∧
      p.receive (.commit left plan) moment (.error stop) =
        .finished (.error (stop.map Failure.ofStorage))) := by
  cases stop with
  | crashed => exact .inr ⟨fun ⟨_, h⟩ => (nomatch h), rfl⟩
  | failed e =>
      cases e with
      | conflict reason => exact .inl ⟨reason, .conflict .., rfl⟩
      | alreadyExists reason => exact .inl ⟨reason, .alreadyExists .., rfl⟩
      | _ => exact .inr ⟨fun ⟨_, h⟩ => (nomatch h), rfl⟩

/-- A publish that starts over with some attempts left ends and has been disciplined. -/
def Retries (p : Publish) (answer : Conduct) (clock : Nat → Moment) (left : Nat) : Prop :=
  ∀ past reason, ∃ es change, p.machine.Talks answer clock past (p.retry left reason) es change ∧
    p.Disciplined clock left es change ∧
    (left = 0 ∧ es = [] ∧ change = p.surrender reason ∨ 0 < left ∧ es ≠ [] ∧ p.Attempt clock es)

/-- A commit ends a publish or leads to what is left of its attempts. -/
theorem talks_commit {left : Nat} (h : p.Retries answer clock left) (past : List Exchange) (plan : Plan) :
    ∃ x es change, x.call = .commit plan.record plan.demoted ∧
      p.machine.Talks answer clock past (.running (.commit (left + 1) plan)) (x :: es) change ∧
      p.Disciplined clock (left + 1) (x :: es) change := by
  cases hreply : answer past (clock past.length).now (.commit plan.record plan.demoted) with
  | ok created =>
      exact ⟨_, [], _, rfl, .reply (m := p.machine) (s := .commit (left + 1) plan) hreply rfl (.finished _ _),
        .done (Nat.succ_pos _) _ plan created⟩
  | error stop =>
      rcases p.receive_refusal (left + 1) plan (clock past.length).now (clock past.length) stop with
        ⟨reason, hlost, hreceive⟩ | ⟨hlost, hreceive⟩
      · obtain ⟨es, change, hrest, hdisciplined, hnext⟩ := h (past ++ [⟨_, _, .error stop⟩]) reason
        exact ⟨_, es, change, rfl,
          .reply (m := p.machine) (s := .commit (left + 1) plan) hreply hreceive hrest,
          hdisciplined.cons_lost hlost hnext⟩
      · exact ⟨_, [], _, rfl,
          .reply (m := p.machine) (s := .commit (left + 1) plan) hreply hreceive (.finished _ _),
          .failed (.inr rfl) (Nat.succ_pos _) rfl hlost⟩

/-- An attempt goes on with what it has read of all versions. -/
theorem talks_survey (h : answer.PagesEnd clock) (p : Publish) (left : Nat) (past : List Exchange) :
    ∃ read result i, p.Surveys read result ∧ ∀ es change,
      p.machine.Talks answer clock (past ++ read) (p.afterLookup left (clock i) result) es change →
      p.machine.Talks answer clock past (.running (.lookup left (lookup p.config p.manifest.name)))
        (read ++ es) change := by
  have hlimit : 0 < (lookup p.config p.manifest.name).pageSize :=
    Nat.lt_of_lt_of_le Nat.one_pos (Nat.le_max_right _ _)
  obtain ⟨read, result, hread, hsurvey⟩ := Collect.talks
    (h.ends past { name := some p.manifest.name } hlimit) []
    (Nat.zero_le (lookup p.config p.manifest.name).ceiling)
  have hresult : result.map (([] : List Record) ++ ·) = result := by cases result <;> rfl
  rw [hresult] at hread
  obtain ⟨i, hnext⟩ := hread.andThen p.machine (Phase.lookup left)
    (p.afterLookup left) (fun _ _ _ => rfl) 0
  exact ⟨read, result, i, hsurvey, hnext⟩

/-- **A publish that starts over ends and has been disciplined**, with an attempt if there is one left. -/
theorem talks_retry (h : answer.PagesEnd clock) (p : Publish) (left : Nat) :
    p.Retries answer clock left := by
  induction left with
  | zero => exact fun past reason => ⟨[], _, .finished _ _, .nil _, .inl ⟨rfl, rfl, rfl⟩⟩
  | succ left ih =>
      intro past reason
      have hmost : 0 < left + 1 := Nat.succ_pos left
      obtain ⟨read, result, i, hsurvey, hnext⟩ := talks_survey h p (left + 1) past
      have hattempt : p.Attempt clock (read ++ []) := ⟨read, [], result, rfl, hsurvey, .inl rfl⟩
      have hnonempty : ∀ rest, read ++ rest ≠ [] := by
        intro rest
        cases hsurvey <;> exact List.cons_ne_nil _ _
      have hconsulted : Consulted read (ofReply result) := hsurvey.consulted
      cases result with
      | error stop =>
          refine ⟨read ++ [], _, hnext [] _ (.finished _ _), ?_, .inr ⟨hmost, hnonempty [], hattempt⟩⟩
          rw [List.append_nil]
          exact .of_consulted hmost hconsulted
      | ok existing =>
          have hread := hconsulted.reads
          cases hplan : p.plan (clock i) existing with
          | error f =>
              have hafter : p.afterLookup (left + 1) (clock i) (.ok existing) = .finished (failed f) := by
                simp only [afterLookup, hplan]
              rw [hafter] at hnext
              exact ⟨read ++ [], _, hnext [] _ (.finished _ _),
                (Disciplined.nil _).append_reads hread, .inr ⟨hmost, hnonempty [], hattempt⟩⟩
          | ok plan =>
              have hafter : p.afterLookup (left + 1) (clock i) (.ok existing) =
                  .running (.commit (left + 1) plan) := by
                simp only [afterLookup, hplan]
              rw [hafter] at hnext
              obtain ⟨x, es, change, hx, htalks, hdisciplined⟩ := talks_commit ih (past ++ read) plan
              exact ⟨read ++ x :: es, change, hnext _ _ htalks, hdisciplined.append_reads hread,
                .inr ⟨hmost, hnonempty _, read, x :: es, _, rfl, hsurvey,
                  .inr ⟨existing, i, plan, x, es, rfl, hplan, rfl, hx⟩⟩⟩

/-- Once the URLs have been checked, a publish goes on with its attempts. -/
theorem talks_ownership (h : answer.PagesEnd clock) (p : Publish) (past : List Exchange) :
    ∃ es change, p.machine.Talks answer clock past
        ((Ownership.start p.manifest).andThen Phase.ownership p.afterOwnership) es change ∧
      p.Disciplined clock maxAttempts es change := by
  obtain ⟨checked, outcome, hchecked, hconsulted⟩ := Ownership.talks h p.manifest.name
    p.manifest.remoteUrls past
  obtain ⟨-, hnext⟩ := hchecked.andThen p.machine Phase.ownership
    (fun _ => p.afterOwnership) (fun _ _ _ => rfl) 0
  cases outcome with
  | error stop =>
      refine ⟨checked ++ [], _, hnext [] _ (.finished _ _), ?_⟩
      rw [List.append_nil]
      exact .of_consulted (by decide) hconsulted
  | ok _ =>
      obtain ⟨es, change, htalks, hdisciplined, -⟩ := talks_retry h p maxAttempts (past ++ checked) ""
      exact ⟨checked ++ es, change, hnext es change htalks, hdisciplined.append_reads hconsulted.reads⟩

/-- Once the quota has been decided, a publish goes on with its URLs. -/
theorem talks_quota (h : answer.PagesEnd clock) (p : Publish) (past : List Exchange)
    (outcome : Outcome Quota.Decision) {counted : List Exchange} (hconsulted : Consulted counted outcome) :
    ∃ es change, p.machine.Talks answer clock past (p.afterQuota outcome) es change ∧
      p.Disciplined clock maxAttempts (counted ++ es) change := by
  have hmost : 0 < maxAttempts := by decide
  cases outcome with
  | error stop =>
      refine ⟨[], _, .finished _ _, ?_⟩
      rw [List.append_nil]
      exact .of_consulted hmost hconsulted
  | ok decision =>
      rw [afterQuota]
      cases decision.verdict p.publisher.subject with
      | error f => exact ⟨[], _, .finished _ _, (Disciplined.nil _).append_reads hconsulted.reads⟩
      | ok _ =>
          cases p.submission.flaw? p.config p.validator with
          | some f => exact ⟨[], _, .finished _ _, (Disciplined.nil _).append_reads hconsulted.reads⟩
          | none =>
              obtain ⟨es, change, htalks, hdisciplined⟩ := talks_ownership h p past
              exact ⟨es, change, htalks, hdisciplined.append_reads hconsulted.reads⟩

/-- **A publish ends and has been disciplined.** -/
theorem talks_start (h : answer.PagesEnd clock) (p : Publish) :
    ∃ es change, p.machine.Talks answer clock [] p.start es change ∧
      p.Disciplined clock maxAttempts es change := by
  obtain ⟨counted, outcome, hcounted, hconsulted⟩ := p.quota.talks answer clock []
  obtain ⟨-, hnext⟩ := hcounted.andThen p.machine Phase.quota
    (fun _ => p.afterQuota) (fun _ _ _ => rfl) 0
  obtain ⟨es, change, htalks, hdisciplined⟩ := talks_quota h p ([] ++ counted) outcome hconsulted
  exact ⟨counted ++ es, change, hnext es change htalks, hdisciplined⟩

end

end Service.Publish

namespace Registry

/-- A task goes the same way in a store as by its conduct alone. -/
theorem runAt_oracle {τ ρ : Type} (r : Registry Oracle) (m : Machine τ ρ) (answer : Conduct) (size : Nat)
    (clock : Nat → Moment) (rounds made : Nat) (progress : Progress τ ρ) (past : List Exchange) :
    m.runAt r.call clock rounds made progress ⟨answer, size, past⟩ =
      ((m.runAt answer.call clock rounds made progress past).1,
        ⟨answer, size, (m.runAt answer.call clock rounds made progress past).2⟩) := by
  induction rounds generalizing made progress past with
  | zero => cases progress <;> rfl
  | succ rounds ih =>
      cases progress with
      | finished result => rfl
      | running state => exact ih _ _ _

/-- **A publish before any store is disciplined**, and ends if pages do: if it may make enough calls, it comes
to the same however many it may make. -/
theorem publish_disciplined (answer : Conduct) {clock : Nat → Moment} (h : answer.PagesEnd clock)
    (config : Config) (validator : Manifest.Validator) (events : Broadcast Event) (submission : Submission)
    (publisher : Publisher) :
    ∃ es change enough,
      Publish.Disciplined ⟨config, validator, submission, publisher⟩ clock Publish.maxAttempts es change ∧
      ∀ size ≥ enough,
        publishAt ⟨config, validator, (⟨answer, size, []⟩ : Oracle), events⟩ clock submission publisher =
          (change.map Prod.fst,
            ⟨config, validator, ⟨answer, size, es⟩, change.told.foldl Broadcast.send events⟩) := by
  let p : Publish := ⟨config, validator, submission, publisher⟩
  obtain ⟨es, change, htalks, hdisciplined⟩ := Publish.talks_start h p
  refine ⟨es, change, es.length, hdisciplined, fun size hsize => ?_⟩
  have hrounds : es.length ≤ p.rounds size := by
    show es.length ≤ 1 + _ + 3 * (size + 1 + 1)
    omega
  have hrun : p.machine.runAt answer.call clock (p.rounds (PacedStore.size (⟨answer, size, []⟩ : Oracle))) 0
      p.start [] = (some change, es) := htalks.run hrounds
  rw [publishAt, change_eq, runAt_oracle, hrun]
  cases change <;> rfl

/-- A store that lists nothing and lets the first commit lose. -/
def rivalled : Conduct := fun past _ c =>
  match c with
  | .list .. => .ok ⟨[], none⟩
  | .getById _ | .getVersion .. => .ok none
  | .countRecent .. => .ok 0
  | .create record | .update _ record => .ok record
  | .commit record _ => if past.any Exchange.isCommit then .ok record else refuse (.conflict "busy")
  | .close => .ok ()

/-- A publish whose first commit has lost reads once more and commits again, and tells of this commit only. -/
theorem publish_disciplined_rivalled :
    let submission : Submission := ⟨Race.manifest "1.0.0" "", []⟩
    let publisher : Publisher := { subject := "s" }
    let events : Broadcast Event := { room := 4, receivers := [some 0] }
    rivalled.PagesEnd ticking ∧
    (let r : Registry Oracle := ⟨{}, fun _ => none, ⟨rivalled, 9, []⟩, events⟩
      let after := r.publishAt ticking submission publisher
      after.2.store.past.map (fun x => x.call.method) = [.countRecent, .list, .commit, .list, .commit] ∧
      after.2.events.held.map Event.kind = [.latestChanged, .published]) ∧
    ∃ es change enough,
      Publish.Disciplined ⟨{}, fun _ => none, submission, publisher⟩ ticking Publish.maxAttempts es change ∧
      ∀ size ≥ enough,
        publishAt ⟨{}, fun _ => none, (⟨rivalled, size, []⟩ : Oracle), events⟩ ticking submission publisher =
          (change.map Prod.fst,
            ⟨{}, fun _ => none, ⟨rivalled, size, es⟩, change.told.foldl Broadcast.send events⟩) := by
  intro submission publisher events
  have hpages : rivalled.PagesEnd ticking := fun past filter limit _ => ⟨1, rfl⟩
  exact ⟨hpages, by decide +kernel,
    publish_disciplined rivalled hpages {} (fun _ => none) events submission publisher⟩

end Registry

end ManifestRegistry
