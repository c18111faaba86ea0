/-
**Residents and strangers.**

A resident of a realm publishes and edits under its names and identities, as one of its subjects and with its
URLs; a stranger does so with none of them.  All that a resident is told by a store is told by the part of it
that belongs to the realm: how often the subject has published, whose a URL is, which versions a name has,
whether a commit is accepted.  So a resident's task is in step in both, however many records there are in
between and wherever pages begin.  A stranger's task reads only what is foreign to the realm, plans and edits
only that, and therefore never writes anything that belongs to the realm.

Main definitions:

* `Service.Publish.Resident`, `Service.Edit.Resident` — changes of what belongs to a realm;
* `Service.Job.Stranger` — a job that has nothing to do with a realm; `Service.Job.Apart` — nor has what it
  carries.

Main results:

* `Service.Publish.inStep`, `Service.Edit.inStep` — **residents' tasks are in step**;
* `Service.Job.Apart.turn` — **a stranger's call leaves a realm alone**;
* `Service.Job.size_turn` — a call adds one record at most, and then the job is done.
-/

import ManifestRegistry.Proofs.Service.Carrying
import ManifestRegistry.Proofs.Service.InStep
import ManifestRegistry.Proofs.Storage.Realms

set_option relaxedAutoImplicit false
set_option autoImplicit false

namespace ManifestRegistry

open Storage

/-- A manifest under a name and with URLs of a realm. -/
structure Storage.Realm.Has (R : Realm) (m : Manifest) : Prop where
  name : m.name ∈ R.names
  urls : ∀ url ∈ m.remoteUrls, R.urls url

/-- A manifest under no name and with no URL of a realm. -/
structure Storage.Realm.Lacks (R : Realm) (m : Manifest) : Prop where
  name : m.name ∉ R.names
  urls : ∀ url ∈ m.remoteUrls, ¬R.urls url

namespace Service

variable {R : Realm}

/-! ### What is made of records -/

namespace Publish

variable {p : Publish} {moment : Moment} {existing : List Record} {d : Record}

/-- A publish under a name of a realm, as one of its subjects. -/
structure Resident (R : Realm) (p : Publish) : Prop where
  manifest : R.Has p.manifest
  publisher : R.subjects p.publisher.subject

theorem owns_record (hname : p.manifest.name ∈ R.names) (hid : R.ids moment.freshId)
    (hx : ∀ x ∈ existing, R.Owns x) : R.Owns (p.record moment existing) where
  name := hname
  id := by
    rw [id_record]
    rcases identity_eq moment existing with he | ⟨x, hmem, he⟩
    · exact he ▸ hid
    · exact he ▸ (hx x hmem).id

theorem owns_demotion (hx : ∀ x ∈ existing, R.Owns x) (hd : p.demotion moment existing = some d) :
    R.Owns d := by
  obtain ⟨l, hl, -, rfl, -⟩ := demotion_eq_some hd
  exact (hx l hl).of_eq rfl rfl

theorem avoids_record (hmanifest : R.Lacks p.manifest) (hbag : R.bags p.submission.bag)
    (hpublisher : ¬R.subjects p.publisher.subject) (hid : ¬R.ids moment.freshId)
    (hx : ∀ x ∈ existing, R.Avoids x) :
    R.Avoids (p.record moment existing) where
  name := hmanifest.name
  id := by
    rw [id_record]
    rcases identity_eq moment existing with he | ⟨x, hmem, he⟩
    · exact he ▸ hid
    · exact he ▸ (hx x hmem).id
  publisher := by
    rintro _ ⟨⟩
    exact hpublisher
  urls := hmanifest.urls
  bag := hbag

theorem avoids_demotion (hx : ∀ x ∈ existing, R.Avoids x) (hd : p.demotion moment existing = some d) :
    R.Avoids d := by
  obtain ⟨l, hl, -, rfl, -⟩ := demotion_eq_some hd
  exact (hx l hl).of_eq rfl rfl rfl (hx l hl).bag

end Publish

namespace Edit

variable {e : Edit} {x : Record}

/-- An edit under a name and an identity of a realm. -/
structure Resident (R : Realm) (e : Edit) : Prop where
  manifest : R.Has e.manifest
  id : R.ids e.id

theorem owns_edited (now : Instant) (hname : e.manifest.name ∈ R.names) (hx : R.Owns x) :
    R.Owns (e.edited now x) :=
  ⟨hname, hx.id⟩

theorem avoids_edited (now : Instant) (hmanifest : R.Lacks e.manifest) (hbag : R.bags e.submission.bag)
    (hx : R.Avoids x) : R.Avoids (e.edited now x) where
  name := hmanifest.name
  id := hx.id
  publisher := hx.publisher
  urls := hmanifest.urls
  bag := by
    show R.bags (if e.submission.bag.isEmpty then x.bag else e.submission.bag)
    split
    · exact hx.bag
    · exact hbag

end Edit

/-! ### Residents -/

section

variable {σ : Type} [Store σ] [Catalog σ] [Divisible σ] {t s : σ} (clock : Nat → Moment)

/-- A task that has ended leaves an extract as it is. -/
theorem Machine.inStep_extract {τ ρ : Type} (m : Machine τ ρ) (clock : Nat → Moment) (made bound : Nat)
    (r : ρ) (h : Extract R t s) : m.InStep clock made bound (fun _ t' s' => Extract R t' s')
      (.finished r) (.finished r) t s :=
  ⟨0, r, t, s, Nat.zero_le _, .finished _ _ _, .finished _ _ _, h⟩

theorem Ownership.inStep_resident (h : Extract R t s) (hfew : Store.size s ≤ Cursor.limit)
    {m : Manifest} (hm : R.Has m) (made : Nat) :
    machine.InStep clock made (rounds m (Store.size t)) (fun _ t' s' => t' = t ∧ s' = s)
      (start m) (start m) t s :=
  inStep (Divisible.calm h.divided_left (Nat.le_trans h.size_le hfew)) (Divisible.calm h.divided hfew)
    m.name m.remoteUrls (fun url hurl => h.listed (.linked (hm.urls url hurl))) made

theorem Collect.inStep_resident (h : Extract R t s) (hfew : Store.size s ≤ Cursor.limit)
    (config : Config) {name : String} (hname : name ∈ R.names) (made : Nat) :
    machine.InStep clock made (Store.size t + 1)
      (fun r t' s' => t' = t ∧ s' = s ∧ ∀ xs, r = .ok xs → ∀ x ∈ xs, R.Owns x)
      (.running (Publish.lookup config name)) (.running (Publish.lookup config name)) t s := by
  have ht := Divisible.calm h.divided_left (Nat.le_trans h.size_le hfew)
  have hshown : ∀ n x, (n, .ok x) ∈ Catalog.selected t { name := some name } → R.Owns x := fun n x hx =>
    ((Divisible.shown h.divided_left hx).resolve_right fun hno => hno.1 hname).2
  have hlevel : Level t s { name := some name } (Catalog.selected t { name := some name }).length none
      none := Level.start (h.listed (.named hname))
  refine (inStep ht (Divisible.calm h.divided hfew) (Publish.lookup config name) hshown ?_ hlevel ?_).mono
    (Nat.succ_le_succ (ht.few _)) fun _ _ _ h => h
  · exact Nat.lt_of_lt_of_le Nat.one_pos (Nat.le_max_right _ _)
  · exact fun x hx => absurd hx List.not_mem_nil

variable [Cabinet σ]

namespace Publish

variable {p : Publish}

theorem inStep_quota (h : Extract R t s) (hp : R.subjects p.publisher.subject) (made : Nat) :
    Quota.machine.InStep clock made 1 (fun _ t' s' => t' = t ∧ s' = s) p.quota.start p.quota.start t s := by
  unfold Quota.start
  split
  · exact Machine.inStep_finished _ _ _ _ ⟨rfl, rfl⟩
  · split
    · exact Machine.inStep_finished _ _ _ _ ⟨rfl, rfl⟩
    · refine Machine.inStep_call ?_
      obtain ⟨hext, hwhole⟩ := h.read (.countRecent Quota.windowHours hp) (clock made).now
        fun u => Cabinet.call_countRecent u _ _ _
      simp only [Machine.step, Quota.machine, Quota.ask, quota, hext]
      rw [hwhole]
      exact Machine.inStep_finished _ _ _ _ ⟨rfl, rfl⟩

/-- A commit that is refused is tried again, or ends the publish. -/
theorem afterCommit_error (p : Publish) (left : Nat) (plan : Plan) (stop : Stop StorageError) :
    (∃ reason, p.afterCommit left plan (.error stop) = p.retry (left - 1) reason) ∨
      ∃ stop', p.afterCommit left plan (.error stop) = .finished (.error stop') := by
  cases stop with
  | crashed => exact .inr ⟨_, rfl⟩
  | failed e =>
      cases e with
      | conflict reason => exact .inl ⟨reason, rfl⟩
      | alreadyExists reason => exact .inl ⟨reason, rfl⟩
      | _ => exact .inr ⟨_, rfl⟩

variable [Modest σ]

omit [Cabinet σ] in
theorem inStep_commit (h : Extract R t s) {left made again : Nat} {plan : Plan}
    (hc : R.Confined (.commit plan.record plan.demoted))
    (hagain : ∀ reason, p.machine.InStep clock (made + 1) again (fun _ t' s' => Extract R t' s')
      (p.retry left reason) (p.retry left reason) t s) :
    p.machine.InStep clock made (again + 1) (fun _ t' s' => Extract R t' s')
      (.running (.commit (left + 1) plan)) (.running (.commit (left + 1) plan)) t s := by
  let commit : Call := .commit plan.record plan.demoted
  obtain ⟨hsame, hextract⟩ := h.confined hc (clock made).now
  refine Machine.inStep_call ?_
  show p.machine.InStep clock (made + 1) again _
    (p.afterCommit (left + 1) plan (Store.call commit (clock made).now t).1)
    (p.afterCommit (left + 1) plan (Store.call commit (clock made).now s).1)
    (Store.call commit (clock made).now t).2 (Store.call commit (clock made).now s).2
  cases hreply : (Store.call commit (clock made).now s).1 with
  | ok created =>
      rw [hsame, hreply]
      exact Machine.inStep_extract _ _ _ _ _ hextract
  | error stop =>
      -- what is refused has left both stores as they were
      have hwhole : (Store.call commit (clock made).now s).2 = s := Modest.commit_refused hreply
      have hpart : (Store.call commit (clock made).now t).2 = t :=
        Modest.commit_refused (hsame.trans hreply)
      rw [hsame, hreply, hwhole, hpart]
      rcases p.afterCommit_error (left + 1) plan stop with ⟨reason, hto⟩ | ⟨stop', hto⟩
      · rw [hto]
        exact hagain reason
      · rw [hto]
        exact Machine.inStep_extract _ _ _ _ _ h

omit [Cabinet σ] in
/-- **Attempts to commit are in step.** -/
theorem inStep_retry (h : Extract R t s) (hfew : Store.size s ≤ Cursor.limit)
    (hname : p.manifest.name ∈ R.names) (hids : ∀ i, R.ids (clock i).freshId) (left made : Nat)
    (reason : String) :
    p.machine.InStep clock made (left * (Store.size t + 2)) (fun _ t' s' => Extract R t' s')
      (p.retry left reason) (p.retry left reason) t s := by
  induction left generalizing made reason with
  | zero => exact Machine.inStep_extract _ _ _ _ _ h
  | succ left ih =>
      have hread := Collect.inStep_resident clock h hfew p.config hname made
      have hbound : (left + 1) * (Store.size t + 2) =
          Store.size t + 1 + (1 + left * (Store.size t + 2)) := by
        rw [Nat.succ_mul]
        omega
      rw [hbound]
      refine hread.andThen (Phase.lookup (left + 1)) (p.afterLookup (left + 1)) (fun _ _ _ _ => rfl) 0 ?_
      rintro made i r t' s' ⟨rfl, rfl, hown⟩
      cases r with
      | error stop => exact Machine.inStep_extract _ _ _ _ _ h
      | ok existing =>
          cases hplan : p.plan (clock i) existing with
          | error f =>
              simp only [afterLookup, hplan]
              exact Machine.inStep_extract _ _ _ _ _ h
          | ok plan =>
              simp only [afterLookup, hplan]
              obtain ⟨-, -, rfl⟩ := plan_eq_ok.1 hplan
              have hconfined : R.Confined
                  (.commit (p.record (clock i) existing) (p.demotion (clock i) existing)) :=
                .commit (owns_record hname (hids i) (hown existing rfl)) fun d hd =>
                  owns_demotion (hown existing rfl) hd
              rw [Nat.add_comm 1]
              exact inStep_commit clock h hconfined (ih (made + 1))

/-- **A resident's publish is in step.** -/
theorem inStep (h : Extract R t s) (hfew : Store.size s ≤ Cursor.limit) (hp : p.Resident R)
    (hids : ∀ i, R.ids (clock i).freshId) (made : Nat) :
    p.machine.InStep clock made (p.rounds (Store.size t)) (fun _ t' s' => Extract R t' s')
      p.start p.start t s := by
  rw [rounds, Collect.rounds, Nat.add_assoc]
  refine (inStep_quota clock h hp.publisher made).andThen Phase.quota (fun _ => p.afterQuota)
    (fun _ _ _ _ => rfl) 0 ?_
  rintro made i r t' s' ⟨rfl, rfl⟩
  cases r with
  | error stop => exact Machine.inStep_extract _ _ _ _ _ h
  | ok decision =>
      simp only [afterQuota]
      cases decision.verdict p.publisher.subject with
      | error f => exact Machine.inStep_extract _ _ _ _ _ h
      | ok _ =>
          cases p.submission.flaw? p.config p.validator with
          | some f => exact Machine.inStep_extract _ _ _ _ _ h
          | none =>
              refine (Ownership.inStep_resident clock h hfew hp.manifest made).andThen
                Phase.ownership (fun _ => p.afterOwnership) (fun _ _ _ _ => rfl) 0 ?_
              rintro made i r t' s' ⟨rfl, rfl⟩
              cases r with
              | error stop => exact Machine.inStep_extract _ _ _ _ _ h
              | ok _ => exact inStep_retry clock h hfew hp.manifest.name hids maxAttempts made ""

end Publish

namespace Edit

variable {e : Edit}

omit [Cabinet σ] in
theorem inStep_save (h : Extract R t s) (he : e.Resident R) {u : Record} (hu : R.Owns u) (made : Nat) :
    e.machine.InStep clock made 1 (fun _ t' s' => Extract R t' s') (.running (.save u))
      (.running (.save u)) t s := by
  let save : Call := .update e.id u
  obtain ⟨hsame, hextract⟩ := h.confined (.update he.id hu) (clock made).now
  refine Machine.inStep_call ?_
  show e.machine.InStep clock (made + 1) 0 _
    (e.afterSave (Store.call save (clock made).now t).1)
    (e.afterSave (Store.call save (clock made).now s).1)
    (Store.call save (clock made).now t).2 (Store.call save (clock made).now s).2
  rw [hsame]
  cases (Store.call save (clock made).now s).1 with
  | error stop => exact Machine.inStep_extract _ _ _ _ _ hextract
  | ok saved => exact Machine.inStep_extract _ _ _ _ _ hextract

theorem inStep_fetch (h : Extract R t s) (he : e.Resident R) (made : Nat) :
    e.machine.InStep clock made 2 (fun _ t' s' => Extract R t' s') (.running .fetch) (.running .fetch)
      t s := by
  let fetch : Call := .getVersion e.id e.manifest.version
  obtain ⟨hext, hwhole⟩ := h.read (.getVersion e.manifest.version he.id) (clock made).now
    fun u => Cabinet.call_getVersion u _ _ _
  refine Machine.inStep_call ?_
  show e.machine.InStep clock (made + 1) 1 _
    (e.receive .fetch (clock made) (Store.call fetch (clock made).now t).1)
    (e.receive .fetch (clock made) (Store.call fetch (clock made).now s).1)
    (Store.call fetch (clock made).now t).2 (Store.call fetch (clock made).now s).2
  have hleft := congrArg Prod.snd hwhole
  simp only at hleft
  rw [hext, hleft]
  rcases Edit.receive_fetch (e := e) (clock made) (Store.call fetch (clock made).now s).1 with
    ⟨stop, hto⟩ | ⟨x, hx, -, hto⟩
  · rw [hto]
    exact Machine.inStep_extract _ _ _ _ _ h
  · have hown : R.Owns x := ((Divisible.found h.divided hx).resolve_right fun hno => hno.1 he.id).2
    rw [hto]
    exact inStep_save clock h he (owns_edited _ he.manifest.name hown) (made + 1)

/-- **A resident's edit is in step.** -/
theorem inStep (h : Extract R t s) (hfew : Store.size s ≤ Cursor.limit) (he : e.Resident R) (made : Nat) :
    e.machine.InStep clock made (e.rounds (Store.size t)) (fun _ t' s' => Extract R t' s')
      e.start e.start t s := by
  unfold Edit.start
  cases e.submission.flaw? e.config e.validator with
  | some f => exact Machine.inStep_extract _ _ _ _ _ h
  | none =>
      refine (Ownership.inStep_resident clock h hfew he.manifest made).andThen Phase.ownership
        (fun _ => afterOwnership) (fun _ _ _ _ => rfl) 0 ?_
      rintro made i r t' s' ⟨rfl, rfl⟩
      cases r with
      | error stop => exact Machine.inStep_extract _ _ _ _ _ h
      | ok _ => exact inStep_fetch clock h he made

end Edit

end

/-! ### Strangers -/

namespace Job

/-- A job that has nothing to do with a realm and brings a bag that it may bring; a publish is not offered any
of the identities of the realm either. -/
def Stranger (R : Realm) (clock : Nat → Moment) : Job → Prop
  | .publish p _ => R.Lacks p.manifest ∧ R.bags p.submission.bag ∧ ¬R.subjects p.publisher.subject ∧
      ∀ i, ¬R.ids (clock i).freshId
  | .edit e _ => R.Lacks e.manifest ∧ R.bags e.submission.bag

/-- What a job carries has nothing to do with a realm, nor has what it looks up. -/
def Apart (R : Realm) : Job → Prop
  | .publish p (.running (.lookup _ c)) =>
      c.filter = { name := some p.manifest.name } ∧ ∀ x ∈ c.records, R.Avoids x
  | .publish _ (.running (.commit _ plan)) => R.Avoids plan.record ∧ ∀ d, plan.demoted = some d → R.Avoids d
  | .edit e (.running (.save u)) => ¬R.ids e.id ∧ R.Avoids u
  | _ => True

theorem apart_of_opened {p : Publish} {progress : Progress Publish.Phase Change}
    (h : p.Opened progress) : (publish p progress).Apart R := by
  cases h with
  | lookup left => exact ⟨rfl, fun x hx => absurd hx List.not_mem_nil⟩
  | _ => trivial

theorem apart_of_opened_edit {e : Edit} {progress : Progress Edit.Phase Change}
    (h : Edit.Opened progress) : (edit e progress).Apart R := by
  cases h <;> trivial

theorem apart_job (R : Realm) (request : Request) : request.job.Apart R := by
  cases request with
  | publish p => exact apart_of_opened Publish.opened_start
  | edit e => exact apart_of_opened_edit Edit.opened_start

/-- Whether a job is a stranger's does not depend on how far it is. -/
theorem Stranger.of_turn {σ : Type} [Store σ] {clock : Nat → Moment} {job : Job}
    (h : job.Stranger R clock) (moment : Moment) (s : σ) : (job.turn moment s).1.Stranger R clock := by
  cases job with
  | publish p progress => cases progress <;> exact h
  | edit e progress => cases progress <;> exact h

section

variable {σ : Type} [Store σ] [Catalog σ] [Divisible σ] {t s : σ} {clock : Nat → Moment}
  (h : Extract R t s) (i : Nat)
include h

theorem Apart.turn_lookup {p : Publish} {left : Nat} {c : Collect}
    (hs : (publish p (.running (.lookup left c))).Stranger R clock)
    (ha : (publish p (.running (.lookup left c))).Apart R) :
    Extract R t ((publish p (.running (.lookup left c))).turn (clock i) s).2 ∧
      ((publish p (.running (.lookup left c))).turn (clock i) s).1.Apart R := by
  have hto := Publish.receive_lookup (p := p) left c (clock i)
    (listing (Catalog.selected s c.filter) c.cursor c.pageSize)
  simp only [turn, Machine.step, Publish.machine, Publish.ask, Collect.ask, within_eq_call,
    Catalog.call_list (Divisible.isOpen h.divided)]
  refine ⟨h, ?_⟩
  rcases hto with ⟨stop, hto⟩ | ⟨page, hpage, hto⟩
  · rw [hto]
    trivial
  have hread : ∀ x ∈ c.records ++ page.items, R.Avoids x := by
    intro x hx
    rcases List.mem_append.1 hx with hx | hx
    · exact ha.2 x hx
    · obtain ⟨n, hn⟩ := mem_of_mem_listing hpage hx
      rw [ha.1] at hn
      exact ((Divisible.shown h.divided hn).resolve_left fun hown => hs.1.name hown.1).2
  rcases hto with ⟨cursor, hto⟩ | ⟨existing, hsub, plan, hplan, hto⟩
  · rw [hto]
    exact ⟨ha.1, hread⟩
  · obtain ⟨-, -, rfl⟩ := Publish.plan_eq_ok.1 hplan
    have hexisting : ∀ x ∈ existing, R.Avoids x := fun x hx => hread x (hsub x hx)
    rw [hto]
    exact ⟨Publish.avoids_record hs.1 hs.2.1 hs.2.2.1 (hs.2.2.2 i) hexisting, fun d hd =>
      Publish.avoids_demotion hexisting hd⟩

theorem Apart.turn_commit {p : Publish} {left : Nat} {plan : Publish.Plan}
    (ha : (publish p (.running (.commit left plan))).Apart R) :
    Extract R t ((publish p (.running (.commit left plan))).turn (clock i) s).2 ∧
      ((publish p (.running (.commit left plan))).turn (clock i) s).1.Apart R := by
  have hto := Publish.receive_commit (p := p) left plan (clock i)
    (Store.call (.commit plan.record plan.demoted) (clock i).now s).1
  simp only [turn, Machine.step, Publish.machine, Publish.ask, within_eq_call]
  refine ⟨h.foreign (.commit ha.1 ha.2) (clock i).now, ?_⟩
  rcases hto with ⟨created, -, hto⟩ | ⟨-, hto⟩
  · rw [hto]
    trivial
  · exact apart_of_opened hto

theorem Apart.turn_fetch [Cabinet σ] {e : Edit} (hs : (edit e (.running .fetch)).Stranger R clock) :
    Extract R t ((edit e (.running .fetch)).turn (clock i) s).2 ∧
      ((edit e (.running .fetch)).turn (clock i) s).1.Apart R := by
  have hto := Edit.receive_fetch (e := e) (clock i)
    (Store.call (.getVersion e.id e.manifest.version) (clock i).now s).1
  simp only [turn, Machine.step, Edit.machine, Edit.ask, within_eq_call]
  rw [Cabinet.call_getVersion]
  refine ⟨h, ?_⟩
  rcases hto with ⟨stop, hto⟩ | ⟨x, hx, hname, hto⟩
  · rw [hto]
    trivial
  · rw [hto]
    obtain ⟨hid, hx⟩ := (Divisible.found h.divided hx).resolve_left fun hown =>
      hs.1.name (hname ▸ hown.2.name)
    exact ⟨hid, Edit.avoids_edited _ hs.1 hs.2 hx⟩

theorem Apart.turn_save {e : Edit} {u : Record} (ha : (edit e (.running (.save u))).Apart R) :
    Extract R t ((edit e (.running (.save u))).turn (clock i) s).2 ∧
      ((edit e (.running (.save u))).turn (clock i) s).1.Apart R := by
  have hto := Edit.receive_save (e := e) u (clock i) (Store.call (.update e.id u) (clock i).now s).1
  simp only [turn, Machine.step, Edit.machine, Edit.ask, within_eq_call]
  refine ⟨h.foreign (.update ha.1 ha.2) (clock i).now, ?_⟩
  rcases hto with ⟨saved, -, hto⟩ | ⟨-, stop, hto⟩
  all_goals
    rw [hto]
    trivial

/-- **A stranger's call leaves a realm alone**, and what the stranger carries is foreign to it. -/
theorem Apart.turn [Cabinet σ] {job : Job} (hs : job.Stranger R clock) (ha : job.Apart R) :
    Extract R t (job.turn (clock i) s).2 ∧ (job.turn (clock i) s).1.Apart R := by
  cases job with
  | publish p progress =>
      cases progress with
      | finished r => exact ⟨h, trivial⟩
      | running phase =>
          cases phase with
          | quota q =>
              refine ⟨?_, apart_of_opened (Publish.opened_receive_quota q (clock i) _)⟩
              simp only [Job.turn, Machine.step, Publish.machine, Publish.ask, Quota.ask,
                within_eq_call]
              rwa [Cabinet.call_countRecent]
          | ownership o =>
              refine ⟨?_, apart_of_opened (Publish.opened_receive_ownership o (clock i) _)⟩
              simp only [Job.turn, Machine.step, Publish.machine, Publish.ask, Ownership.ask,
                within_eq_call, Catalog.call_list (Divisible.isOpen h.divided)]
              exact h
          | lookup left c => exact Apart.turn_lookup h i hs ha
          | commit left plan => exact Apart.turn_commit h i ha
  | edit e progress =>
      cases progress with
      | finished r => exact ⟨h, trivial⟩
      | running phase =>
          cases phase with
          | ownership o =>
              refine ⟨?_, apart_of_opened_edit (Edit.opened_receive_ownership (e := e) o (clock i) _)⟩
              simp only [Job.turn, Machine.step, Edit.machine, Edit.ask, Ownership.ask,
                within_eq_call, Catalog.call_list (Divisible.isOpen h.divided)]
              exact h
          | fetch => exact Apart.turn_fetch h i hs
          | save u => exact Apart.turn_save h i ha

end

/-! ### How much a job adds -/

/-- **A call adds one record at most**, and then the job is done. -/
theorem size_turn {σ : Type} [Store σ] [Modest σ] (job : Job) (moment : Moment) (s : σ) :
    Store.size (job.turn moment s).2 ≤ Store.size s ∨
      (job.turn moment s).1.IsDone ∧ Store.size (job.turn moment s).2 ≤ Store.size s + 1 := by
  cases job with
  | publish p progress =>
      cases progress with
      | finished r => exact .inl (Nat.le_refl _)
      | running phase =>
          cases phase with
          | commit left plan =>
              have hto := Publish.receive_commit (p := p) left plan moment
                (Store.call (.commit plan.record plan.demoted) moment.now s).1
              rcases hto with ⟨created, -, hto⟩ | ⟨⟨stop, hstop⟩, -⟩
              · refine .inr ⟨?_, Modest.size_commit plan.record plan.demoted moment.now s⟩
                simp only [turn, Machine.step, Publish.machine, Publish.ask, within_eq_call]
                rw [hto]
                trivial
              · refine .inl (Nat.le_of_eq (congrArg Store.size ?_))
                exact Modest.commit_refused hstop
          | _ => exact .inl (Modest.size_call rfl moment.now s)
  | edit e progress =>
      cases progress with
      | finished r => exact .inl (Nat.le_refl _)
      | running phase => cases phase <;> exact .inl (Modest.size_call rfl moment.now s)

end Job

end Service

end ManifestRegistry
