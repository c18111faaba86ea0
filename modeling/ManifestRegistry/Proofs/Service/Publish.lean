/-
**What a publish knows and what it commits.**

A publish knows nothing about the versions of its name until its lookup begins, and it forgets what it
knew when an attempt has failed.  What it commits in the end is told by the versions its lookup has
read: the identity of the one published first, and the flag if the new version takes over from the
flagged one.

Main definitions:

* `Service.Publish.record`, `Service.Publish.demotion` — what is committed, given the versions read;
* `Service.Publish.Opened` — a publish that has not read any version;
* `Service.Publish.Checked` — a publish that is at its checks.

Main results:

* `Service.Publish.plan_eq_ok` — a plan is made of these two;
* `Service.Publish.opened_start`, `Service.Publish.receive_lookup`,
  `Service.Publish.receive_commit` — **where the answers to a publish lead**;
* `Service.Publish.planned` — a plan made from versions read before is still good for later.
-/

import ManifestRegistry.Proofs.Records.Orderly
import ManifestRegistry.Service.Publish

set_option relaxedAutoImplicit false
set_option autoImplicit false

namespace ManifestRegistry

namespace Service

open Storage

namespace Ownership

theorem start_ne_error (m : Manifest) (stop : Stop Failure) :
    start m ≠ .finished (.error stop) := by
  unfold start checkAll
  split <;> exact fun h => nomatch h

theorem reason_of_receive {Reason : Stop Failure → Prop}
    (htaken : ∀ url owner, Reason (.failed (.duplicateRemoteUrl url owner))) (o : Ownership)
    (moment : Moment)
    {reply : Reply (Page Record)}
    (hreply : ∀ stop, reply = .error stop → Reason (stop.map Failure.ofStorage)) {stop : Stop Failure}
    (h : o.receive moment reply = .finished (.error stop)) : Reason stop := by
  cases reply with
  | error e =>
      obtain rfl := Except.error.inj (Progress.finished.inj h)
      exact hreply e rfl
  | ok page =>
      simp only [receive, ofReply] at h
      split at h
      · obtain rfl := Except.error.inj (Progress.finished.inj h)
        exact htaken _ _
      · split at h
        · cases h
        · unfold checkAll at h
          split at h <;> cases h

end Ownership

namespace Publish

/-! ### What is committed -/

/-- The identity under which a version is published, given the versions read. -/
def identity (moment : Moment) (existing : List Record) : Uuid :=
  ((earliest? existing).map Record.id).getD moment.freshId

/-- Whether the new version becomes the latest one, given the versions read. -/
def takesOver (p : Publish) (now : Instant) (existing : List Record) : Bool :=
  p.becomesLatest now (existing.find? Record.isLatest)

/-- The record that is committed, given the versions read. -/
def record (p : Publish) (moment : Moment) (existing : List Record) : Record where
  manifest := p.manifest
  registration := .new (identity moment existing) moment.now (p.takesOver moment.now existing)
  bag := p.submission.bag
  publishedBy := some p.publisher.subject

/-- What is demoted along with it. -/
def demotion (p : Publish) (moment : Moment) (existing : List Record) : Option Record :=
  if p.takesOver moment.now existing then
    (existing.find? Record.isLatest).map fun l => l.demoted moment.now
  else none

/-- A plan is made if the version is new and there is room for it, and then it is this one. -/
theorem plan_eq_ok {p : Publish} {moment : Moment} {existing : List Record} {plan : Plan} :
    p.plan moment existing = .ok plan ↔
      (∀ r ∈ existing, r.version ≠ p.manifest.version) ∧ existing.length < p.config.maxVersions ∧
        plan = ⟨p.record moment existing, p.demotion moment existing⟩ := by
  unfold Publish.plan
  simp only [List.any_eq_true, decide_eq_true_eq]
  split
  · rename_i h
    obtain ⟨r, hr, hv⟩ := h
    simp only [reduceCtorEq, false_iff, not_and]
    exact fun hno => absurd hv (hno r hr)
  · rename_i h
    simp only [not_exists, not_and] at h
    split
    · rename_i hmax
      simp only [reduceCtorEq, false_iff, not_and]
      intro _ hlt
      omega
    · rename_i hmax
      rw [Except.ok.injEq]
      constructor
      · rintro rfl
        exact ⟨h, by omega, rfl⟩
      · rintro ⟨-, -, rfl⟩
        rfl

section

variable (p : Publish) (moment : Moment) (existing : List Record)

@[simp] theorem name_record : (p.record moment existing).name = p.manifest.name := rfl

@[simp] theorem version_record : (p.record moment existing).version = p.manifest.version := rfl

@[simp] theorem id_record : (p.record moment existing).id = identity moment existing := rfl

@[simp] theorem isLatest_record :
    (p.record moment existing).isLatest = p.takesOver moment.now existing := rfl

@[simp] theorem publishedAt_record :
    (p.record moment existing).publishedAt = moment.now := rfl

end

theorem mem_of_earliest?_eq_some {rs : List Record} {r : Record} (h : earliest? rs = some r) :
    r ∈ rs := by
  -- from the end of the list to its front, as the search goes
  induction rs generalizing r with
  | nil => simp [earliest?] at h
  | cons s rs ih =>
      unfold earliest? at h
      split at h
      · rename_i t ht
        split at h
        · obtain rfl : t = r := Option.some_inj.1 h
          exact List.mem_cons_of_mem _ (ih ht)
        · obtain rfl : s = r := Option.some_inj.1 h
          exact List.mem_cons_self
      · obtain rfl : s = r := Option.some_inj.1 h
        exact List.mem_cons_self

/-- The identity of a plan is that of a version read, or the fresh one. -/
theorem identity_eq (moment : Moment) (existing : List Record) :
    identity moment existing = moment.freshId ∨
      ∃ r ∈ existing, identity moment existing = r.id := by
  unfold identity
  cases h : earliest? existing with
  | none => exact .inl rfl
  | some r => exact .inr ⟨r, mem_of_earliest?_eq_some h, rfl⟩

/-- What is demoted is a version read that was flagged, and the new version takes over from it. -/
theorem demotion_eq_some {p : Publish} {moment : Moment} {existing : List Record} {d : Record}
    (h : p.demotion moment existing = some d) :
    ∃ l ∈ existing, l.isLatest = true ∧ d = l.demoted moment.now ∧
      p.takesOver moment.now existing = true ∧
      Version.supersedes p.manifest.version moment.now l.version l.publishedAt = true := by
  unfold demotion at h
  split at h
  · rename_i htakes
    obtain ⟨l, hl, rfl⟩ := Option.map_eq_some_iff.1 h
    refine ⟨l, List.mem_of_find?_eq_some hl, List.find?_some hl, rfl, htakes, ?_⟩
    simpa [takesOver, becomesLatest, hl] using htakes
  · simp at h

theorem takesOver_eq_false {p : Publish} {now : Instant} {existing : List Record}
    (h : p.takesOver now existing = false) : ∃ l ∈ existing, l.isLatest = true ∧
      Version.supersedes p.manifest.version now l.version l.publishedAt = false := by
  unfold takesOver becomesLatest at h
  split at h
  · simp at h
  · rename_i l hl
    exact ⟨l, List.mem_of_find?_eq_some hl, List.find?_some hl, h⟩

/-- **A plan made from versions read before is still good for later**: all it relies on is that the
imprints of those versions are stored. -/
theorem planned {p : Publish} {moment : Moment} {existing : List Record} {ms : List Imprint}
    (h : ∀ x ∈ existing, x.name = p.manifest.name ∧ x.imprint ∈ ms) :
    Planned ms (p.record moment existing) (p.demotion moment existing) where
  below hf := by
    obtain ⟨l, hl, -, hsup⟩ := takesOver_eq_false hf
    exact ⟨l.imprint, (h l hl).2, (h l hl).1, Version.isGE_of_not_supersedes hsup⟩
  demotion d hd := by
    obtain ⟨l, hl, -, rfl, htakes, hsup⟩ := demotion_eq_some hd
    exact ⟨(h l hl).2, rfl, (h l hl).1, htakes, Version.isGE_of_supersedes hsup⟩

/-! ### Where answers lead -/

/-- A publish that has not read any version: it has failed, is still at its checks, or its lookup has
just begun. -/
inductive Opened (p : Publish) : Progress Phase Change → Prop
  | failed (stop : Stop Failure) : Opened p (.finished (.error stop))
  | quota (q : Quota) : Opened p (.running (.quota q))
  | ownership (o : Ownership) : Opened p (.running (.ownership o))
  | lookup (left : Nat) : Opened p (.running (.lookup left (lookup p.config p.manifest.name)))

variable {p : Publish}

theorem opened_retry (left : Nat) (reason : String) : p.Opened (p.retry left reason) := by
  cases left with
  | zero => exact .failed _
  | succ left => exact .lookup _

/-- A publish that is at its checks: it has failed for a reason that is on some list, has a check to
make, or its first lookup has just begun. -/
inductive Checked (p : Publish) (Reason : Stop Failure → Prop) : Progress Phase Change → Prop
  | failed (stop : Stop Failure) (h : Reason stop) : Checked p Reason (.finished (.error stop))
  | quota (q : Quota) : Checked p Reason (.running (.quota q))
  | ownership (o : Ownership) : Checked p Reason (.running (.ownership o))
  | lookup : Checked p Reason (.running (.lookup maxAttempts (lookup p.config p.manifest.name)))

section

variable {Reason : Stop Failure → Prop}

theorem Checked.opened {progress : Progress Phase Change} (h : p.Checked Reason progress) :
    p.Opened progress := by
  cases h with
  | failed stop _ => exact .failed stop
  | quota q => exact .quota q
  | ownership o => exact .ownership o
  | lookup => exact .lookup maxAttempts

theorem isClient_of_flaw? {config : Config} {validator : Manifest.Validator} {s : Submission}
    {f : Failure} (h : s.flaw? config validator = some f) : f.isClient = true := by
  unfold Submission.flaw? at h
  cases hform : s.manifest.structureFlaw? with
  | some reason =>
      rw [hform] at h
      obtain rfl := Option.some_inj.1 h
      rfl
  | none =>
      rw [hform] at h
      cases hbag : s.bagFlaw? config with
      | some flaw =>
          rw [hbag] at h
          obtain rfl : flaw = f := Option.some_inj.1 h
          unfold Submission.bagFlaw? at hbag
          split at hbag
          · obtain rfl := Option.some_inj.1 hbag
            rfl
          · cases hbag
      | none =>
          rw [hbag] at h
          obtain ⟨_, -, rfl⟩ := Option.map_eq_some_iff.1 h
          rfl

theorem checked_andThen_ownership {progress : Progress Ownership (Outcome Unit)}
    (h : ∀ stop, progress = .finished (.error stop) → Reason stop) :
    p.Checked Reason (progress.andThen Phase.ownership p.afterOwnership) := by
  cases progress with
  | running o => exact .ownership o
  | finished r =>
      cases r with
      | error stop => exact .failed stop (h stop rfl)
      | ok _ => exact .lookup

variable (hclient : ∀ f : Failure, f.isClient = true → Reason (.failed f))
include hclient

theorem checked_andThen_quota {progress : Progress Quota (Outcome Quota.Decision)}
    (h : ∀ stop, progress = .finished (.error stop) → Reason stop) :
    p.Checked Reason (progress.andThen Phase.quota p.afterQuota) := by
  cases progress with
  | running q => exact .quota q
  | finished r =>
      cases r with
      | error stop => exact .failed stop (h stop rfl)
      | ok decision =>
          simp only [Progress.andThen, afterQuota]
          split
          · rename_i f hf
            refine .failed _ (hclient f ?_)
            cases decision <;> cases hf <;> rfl
          · split
            · rename_i f hf
              exact .failed _ (hclient f (isClient_of_flaw? hf))
            · refine checked_andThen_ownership ?_
              intro stop hstop
              exact absurd hstop (Ownership.start_ne_error _ stop)

theorem checked_start : p.Checked Reason p.start := by
  refine checked_andThen_quota hclient ?_
  intro stop hstop
  unfold Quota.start at hstop
  split at hstop
  · cases hstop
  · split at hstop <;> cases hstop

/-- A publish that fails at a check fails for its own fault or for the store's. -/
theorem checked_receive_quota (q : Quota) (moment : Moment) {reply : Reply Nat}
    (hreply : ∀ stop, reply = .error stop → Reason (stop.map Failure.ofStorage)) :
    p.Checked Reason (p.receive (.quota q) moment reply) := by
  show p.Checked Reason ((q.receive moment reply).andThen Phase.quota p.afterQuota)
  refine checked_andThen_quota hclient ?_
  intro stop hstop
  cases reply with
  | ok n => cases hstop
  | error e =>
      obtain rfl := Except.error.inj (Progress.finished.inj hstop)
      exact hreply e rfl

theorem checked_receive_ownership (o : Ownership) (moment : Moment) {reply : Reply (Page Record)}
    (hreply : ∀ stop, reply = .error stop → Reason (stop.map Failure.ofStorage)) :
    p.Checked Reason (p.receive (.ownership o) moment reply) := by
  show p.Checked Reason ((o.receive moment reply).andThen Phase.ownership p.afterOwnership)
  exact checked_andThen_ownership fun stop =>
    Ownership.reason_of_receive (fun _ _ => hclient _ rfl) o moment hreply

end

/-- A publish begins without having read anything. -/
theorem opened_start : p.Opened p.start := by
  have hchecked : p.Checked (fun _ => True) p.start := checked_start fun _ _ => trivial
  exact hchecked.opened

theorem opened_receive_quota (q : Quota) (moment : Moment) (reply : Reply Nat) :
    p.Opened (p.receive (.quota q) moment reply) := by
  have hchecked : p.Checked (fun _ => True) (p.receive (.quota q) moment reply) :=
    checked_receive_quota (fun _ _ => trivial) q moment fun _ _ => trivial
  exact hchecked.opened

theorem opened_receive_ownership (o : Ownership) (moment : Moment) (reply : Reply (Page Record)) :
    p.Opened (p.receive (.ownership o) moment reply) := by
  have hchecked : p.Checked (fun _ => True) (p.receive (.ownership o) moment reply) :=
    checked_receive_ownership (fun _ _ => trivial) o moment fun _ _ => trivial
  exact hchecked.opened

/-- A page of versions ends the publish, is put to those read before, or completes them, and then a
plan is made. -/
theorem receive_lookup (left : Nat) (c : Collect) (moment : Moment) (reply : Reply (Page Record)) :
    (∃ stop, p.receive (.lookup left c) moment reply = .finished (.error stop)) ∨
    ∃ page, reply = .ok page ∧
      ((∃ cursor, p.receive (.lookup left c) moment reply = .running (.lookup left
          { c with cursor := some cursor, records := c.records ++ page.items })) ∨
        ∃ existing, (∀ x ∈ existing, x ∈ c.records ++ page.items) ∧
          ∃ plan, p.plan moment existing = .ok plan ∧
            p.receive (.lookup left c) moment reply = .running (.commit left plan)) := by
  have hafter : ∀ existing : List Record,
      (∃ stop, p.afterLookup left moment (.ok existing) = .finished (.error stop)) ∨
        ∃ plan, p.plan moment existing = .ok plan ∧
          p.afterLookup left moment (.ok existing) = .running (.commit left plan) := by
    intro existing
    cases hp : p.plan moment existing with
    | error f => exact .inl ⟨.failed f, by simp only [afterLookup, hp, failed]⟩
    | ok plan => exact .inr ⟨plan, rfl, by simp only [afterLookup, hp]⟩
  cases reply with
  | error stop => exact .inl ⟨_, rfl⟩
  | ok page =>
      by_cases hceil : c.ceiling ≤ (c.records ++ page.items).length
      · have hrec : p.receive (.lookup left c) moment (.ok page) =
            p.afterLookup left moment (.ok ((c.records ++ page.items).take c.ceiling)) := by
          simp only [Publish.receive, Collect.receive, hceil, if_true, Progress.andThen]
        rcases hafter ((c.records ++ page.items).take c.ceiling) with ⟨stop, hs⟩ | ⟨plan, hp, hs⟩
        · exact .inl ⟨stop, hrec.trans hs⟩
        · exact .inr ⟨page, rfl, .inr ⟨_, fun x hx => List.mem_of_mem_take hx, plan, hp,
            hrec.trans hs⟩⟩
      · cases hnext : page.nextCursor with
        | some cursor =>
            refine .inr ⟨page, rfl, .inl ⟨cursor, ?_⟩⟩
            simp only [Publish.receive, Collect.receive, hceil, if_false, hnext, Progress.andThen]
        | none =>
            have hrec : p.receive (.lookup left c) moment (.ok page) =
                p.afterLookup left moment (.ok (c.records ++ page.items)) := by
              simp only [Publish.receive, Collect.receive, hceil, if_false, hnext, Progress.andThen]
            rcases hafter (c.records ++ page.items) with ⟨stop, hs⟩ | ⟨plan, hp, hs⟩
            · exact .inl ⟨stop, hrec.trans hs⟩
            · exact .inr ⟨page, rfl, .inr ⟨_, fun x hx => hx, plan, hp, hrec.trans hs⟩⟩

/-- A commit that went through ends the publish; one that did not leaves it without what it read. -/
theorem receive_commit (left : Nat) (plan : Plan) (moment : Moment) (reply : Reply Record) :
    (∃ created, reply = .ok created ∧ p.receive (.commit left plan) moment reply =
      .finished (.ok (created, p.events created plan.demoted))) ∨
    ((∃ stop, reply = .error stop) ∧ p.Opened (p.receive (.commit left plan) moment reply)) := by
  cases reply with
  | ok created => exact .inl ⟨created, rfl, rfl⟩
  | error stop =>
      refine .inr ⟨⟨stop, rfl⟩, ?_⟩
      cases stop with
      | crashed => exact .failed _
      | failed e =>
          cases e with
          | conflict reason => exact opened_retry (left - 1) reason
          | alreadyExists reason => exact opened_retry (left - 1) reason
          | _ => exact .failed _

end Publish

end Service

end ManifestRegistry
