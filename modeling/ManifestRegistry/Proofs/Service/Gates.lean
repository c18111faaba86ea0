/-
**What a publish does that nobody disturbs.**

A publish passes seven gates, one after the other: the quota of its subject, the form of the manifest,
the size of the bag, the validator, the remote URLs of other names, the versions stored under the name,
and the room left for it.  The first gate that is closed tells the failure, and the records stay as they
are.  If all are open, the new version is put behind the records; if it is above the latest version of
the name, that one is demoted.

Main definitions:

* `Service.Publish.gates`, `Service.Publish.refusal?` — **the gates, and why the first one is closed**;
* `Service.Publish.Admits` — what it takes that all of them are open;
* `Service.Publish.published`, `Service.Publish.stored` — **the new record, and all records with it**;
* `Service.Publish.ending` — what a publish comes to.

Main results:

* `Service.Publish.refusal?_eq_none` — no gate is closed exactly if what they ask for is there;
* `Service.Publish.committed_stored` — open gates leave no conflict for a commit to find;
* `Service.Publish.settled_stored` — open gates leave settled records;
* `Service.Publish.ends` — **an undisturbed publish comes to what the gates say**.
-/

import ManifestRegistry.Proofs.Instant.Windows
import ManifestRegistry.Proofs.Service.Publish
import ManifestRegistry.Proofs.Service.Undisturbed

set_option relaxedAutoImplicit false
set_option autoImplicit false

namespace ManifestRegistry

namespace Service

open Storage

namespace Publish

/-! ### The gates -/

section

variable (p : Publish) (now : Instant) (rs : List Record)

/-- How many records the subject has published within a day. -/
def recent : Nat :=
  match now.minusHours? 24 with
  | some since => rs.countP fun r =>
      r.publishedBy = some p.publisher.subject && !r.publishedAt.before since
  | none => 0

/-- Why the quota refuses a publish, if it does. -/
def quotaFlaw? : Option Failure :=
  if p.publisher.isAdmin ∨ p.config.dailyQuota < 0 then none
  else if p.config.dailyQuota = 0 then some .publishingDisabled
  else if (p.recent now rs : Int) < p.config.dailyQuota then none
  else some (.rateLimitExceeded p.publisher.subject (p.recent now rs) p.config.dailyQuota.toNat)

/-- Why other names refuse the remote URLs, if they do. -/
def urlFlaw? : Option Failure := Ownership.flaw? p.manifest.name rs p.manifest.remoteUrls

/-- Why the version is refused, if it is: the name has it. -/
def versionFlaw? : Option Failure :=
  if ∃ r ∈ rs, r.name = p.manifest.name ∧ r.version = p.manifest.version then
    some (.invalidVersion ("version " ++ p.manifest.version ++ " of " ++ p.manifest.name ++
      " already exists"))
  else none

/-- Why another version is refused, if it is: the name has as many as it may have. -/
def ceilingFlaw? : Option Failure :=
  if (rs.filter fun r => r.name = p.manifest.name).length < p.config.maxVersions then none
  else some (.maxVersionsReached p.manifest.name p.config.maxVersions)

/-- The gates of a publish in their order. -/
def gates : List (Option Failure) :=
  [p.quotaFlaw? now rs, p.manifest.structureFlaw?.map .invalidInput,
    p.submission.bagFlaw? p.config, (p.validator p.manifest).map .validationFailed,
    p.urlFlaw? rs, p.versionFlaw? rs, p.ceilingFlaw? rs]

/-- Why a publish is refused, if it is: the failure at the first gate that is closed. -/
def refusal? : Option Failure := (p.gates now rs).findSome? id

/-- What the gates ask for, in their order. -/
structure Admits : Prop where
  quota : p.publisher.isAdmin = true ∨ p.config.dailyQuota < 0 ∨
    (0 < p.config.dailyQuota ∧ (p.recent now rs : Int) < p.config.dailyQuota)
  form : p.manifest.structureFlaw? = none
  bag : p.submission.bagBytes ≤ p.config.maxBagBytes
  valid : p.validator p.manifest = none
  urls : ∀ r ∈ rs, r.name ≠ p.manifest.name →
    ∀ url ∈ p.manifest.remoteUrls, url ∉ r.manifest.remoteUrls
  version : ∀ r ∈ rs, r.name = p.manifest.name → r.version ≠ p.manifest.version
  room : (rs.filter fun r => r.name = p.manifest.name).length < p.config.maxVersions

end

/-! ### Open gates -/

section

variable {p : Publish} {now : Instant} {rs : List Record}

theorem quotaFlaw?_eq_none : p.quotaFlaw? now rs = none ↔ p.publisher.isAdmin = true ∨
    p.config.dailyQuota < 0 ∨
    (0 < p.config.dailyQuota ∧ (p.recent now rs : Int) < p.config.dailyQuota) := by
  unfold quotaFlaw?
  split
  · rename_i hfree
    exact ⟨fun _ => hfree.imp_right .inl, fun _ => rfl⟩
  · rename_i hbusy
    obtain ⟨hadmin, hneg⟩ := not_or.1 hbusy
    split
    · rename_i hzero
      refine ⟨fun h => (nomatch h), ?_⟩
      rintro (h | h | ⟨h, -⟩)
      · exact absurd h hadmin
      · exact absurd h hneg
      · omega
    · rename_i hzero
      split
      · rename_i hless
        exact ⟨fun _ => .inr (.inr ⟨by omega, hless⟩), fun _ => rfl⟩
      · rename_i hmore
        refine ⟨fun h => (nomatch h), ?_⟩
        rintro (h | h | ⟨-, h⟩)
        · exact absurd h hadmin
        · exact absurd h hneg
        · exact absurd h hmore

theorem bagFlaw?_eq_none : p.submission.bagFlaw? p.config = none ↔
    p.submission.bagBytes ≤ p.config.maxBagBytes := by
  unfold Submission.bagFlaw?
  split
  · rename_i h
    exact ⟨fun h => (nomatch h), fun hle => absurd hle (Nat.not_le.2 h)⟩
  · rename_i h
    exact ⟨fun _ => Nat.le_of_not_lt h, fun _ => rfl⟩

theorem urlFlaw?_eq_none : p.urlFlaw? rs = none ↔ ∀ r ∈ rs, r.name ≠ p.manifest.name →
    ∀ url ∈ p.manifest.remoteUrls, url ∉ r.manifest.remoteUrls := by
  unfold urlFlaw? Ownership.flaw? Ownership.conflict?
  simp only [List.findSome?_eq_none_iff, Option.map_eq_none_iff, List.find?_eq_none,
    Bool.and_eq_true, List.contains_iff_mem, decide_eq_true_eq, not_and]
  exact ⟨fun h r hr hn url hurl hmem => h url hurl r hr hmem hn,
    fun h url hurl r hr hmem hn => h r hr hn url hurl hmem⟩

theorem versionFlaw?_eq_none : p.versionFlaw? rs = none ↔
    ∀ r ∈ rs, r.name = p.manifest.name → r.version ≠ p.manifest.version := by
  unfold versionFlaw?
  split
  · rename_i h
    obtain ⟨r, hr, hn, hver⟩ := h
    exact ⟨fun h => (nomatch h), fun hnew => absurd hver (hnew r hr hn)⟩
  · rename_i h
    exact ⟨fun _ r hr hn hver => h ⟨r, hr, hn, hver⟩, fun _ => rfl⟩

theorem ceilingFlaw?_eq_none : p.ceilingFlaw? rs = none ↔
    (rs.filter fun r => r.name = p.manifest.name).length < p.config.maxVersions := by
  unfold ceilingFlaw?
  split
  · rename_i h
    exact ⟨fun _ => h, fun _ => rfl⟩
  · rename_i h
    exact ⟨fun h => (nomatch h), fun hless => absurd hless h⟩

/-- **No gate is closed exactly if what the gates ask for is there.** -/
theorem refusal?_eq_none : p.refusal? now rs = none ↔ p.Admits now rs := by
  simp only [refusal?, gates, List.findSome?_eq_none_iff, List.forall_mem_cons, id_eq,
    quotaFlaw?_eq_none, bagFlaw?_eq_none, urlFlaw?_eq_none, versionFlaw?_eq_none,
    ceilingFlaw?_eq_none, Option.map_eq_none_iff]
  constructor
  · rintro ⟨hquota, hform, hbag, hvalid, hurls, hversion, hroom, -⟩
    exact ⟨hquota, hform, hbag, hvalid, hurls, hversion, hroom⟩
  · rintro ⟨hquota, hform, hbag, hvalid, hurls, hversion, hroom⟩
    exact ⟨hquota, hform, hbag, hvalid, hurls, hversion, hroom, fun _ h => nomatch h⟩

end

/-! ### What is stored -/

section

variable (p : Publish) (moment : Moment) (rs : List Record)

/-- The latest version of the name. -/
def latest? : Option Record := rs.find? fun r => r.name = p.manifest.name && r.isLatest

/-- Whether the new version becomes the latest one: there is none, or it is above that one. -/
def leads : Bool :=
  match p.latest? rs with
  | none => true
  | some l => Version.supersedes p.manifest.version moment.now l.version l.publishedAt

/-- The identity of the name, a fresh one if the name is new. -/
def owner : Uuid :=
  ((rs.find? fun r => r.name = p.manifest.name).map Record.id).getD moment.freshId

/-- The record of the new version. -/
def published : Record where
  manifest := p.manifest
  registration := .new (p.owner moment rs) moment.now (p.leads moment rs)
  bag := p.submission.bag
  publishedBy := some p.publisher.subject

/-- The latest version demoted, if the new version takes its place. -/
def superseded : Option Record :=
  if p.leads moment rs then (p.latest? rs).map fun l => l.demoted moment.now else none

/-- The records with the latest version demoted, if the new version takes its place. -/
def kept : List Record :=
  rs.map fun r =>
    if p.leads moment rs ∧ r.name = p.manifest.name ∧ r.isLatest then r.demoted moment.now else r

/-- The records with the new version behind them. -/
def stored : List Record := p.kept moment rs ++ [p.published moment rs]

/-- What a publish comes to, and the records afterwards. -/
def ending : Option Failure → Change × List Record
  | some f => (failed f, rs)
  | none => (.ok (p.published moment rs,
      p.events (p.published moment rs) (p.superseded moment rs)), p.stored moment rs)

end

/-! ### What is committed -/

section

variable {p : Publish} {moment : Moment} {rs : List Record}

theorem latest?_eq : (rs.filter fun r => r.name = p.manifest.name).find? Record.isLatest =
    p.latest? rs := by
  rw [List.find?_filter, latest?]
  congr 1
  funext r
  simp

theorem mem_latest? {l : Record} (h : p.latest? rs = some l) :
    l ∈ rs ∧ l.name = p.manifest.name ∧ l.isLatest = true := by
  have htest := List.find?_some h
  simp only [Bool.and_eq_true, decide_eq_true_eq] at htest
  exact ⟨List.mem_of_find?_eq_some h, htest⟩

theorem earliest?_isSome {r : Record} {existing : List Record} (h : r ∈ existing) :
    ∃ first, earliest? existing = some first := by
  cases existing with
  | nil => cases h
  | cons s existing =>
      unfold earliest?
      split
      · split
        · exact ⟨_, rfl⟩
        · exact ⟨_, rfl⟩
      · exact ⟨_, rfl⟩

theorem identity_eq_owner (h : Orderly rs) :
    identity moment (rs.filter fun r => r.name = p.manifest.name) = p.owner moment rs := by
  -- any version of the name tells its identity, the one published first as well as the one stored first
  unfold identity owner
  cases hfind : rs.find? fun r => r.name = p.manifest.name with
  | none =>
      have hnil : rs.filter (fun r => r.name = p.manifest.name) = [] :=
        List.filter_eq_nil_iff.2 fun r hr => List.find?_eq_none.1 hfind r hr
      rw [hnil]
      rfl
  | some owner =>
      have hmem := List.mem_of_find?_eq_some hfind
      have hname : owner.name = p.manifest.name := by simpa using List.find?_some hfind
      have hin : owner ∈ rs.filter fun r => r.name = p.manifest.name :=
        List.mem_filter.2 ⟨hmem, by simpa using hname⟩
      obtain ⟨first, hfirst⟩ := earliest?_isSome hin
      obtain ⟨hfmem, hfname⟩ := List.mem_filter.1 (mem_of_earliest?_eq_some hfirst)
      rw [hfirst, Option.map_some, Option.map_some, Option.getD_some, Option.getD_some]
      exact (h.identity hfmem hmem).1 ((of_decide_eq_true hfname).trans hname.symm)

theorem takesOver_eq_leads : p.takesOver moment.now (rs.filter fun r => r.name = p.manifest.name) =
    p.leads moment rs := by
  rw [takesOver, latest?_eq]
  rfl

/-- **From all versions of the name, the new record is planned.** -/
theorem record_eq_published (h : Orderly rs) :
    p.record moment (rs.filter fun r => r.name = p.manifest.name) = p.published moment rs := by
  rw [record, published, takesOver_eq_leads, identity_eq_owner h]

theorem demotion_eq_superseded :
    p.demotion moment (rs.filter fun r => r.name = p.manifest.name) = p.superseded moment rs := by
  rw [demotion, superseded, takesOver_eq_leads, latest?_eq]

theorem mem_kept {r : Record} (h : r ∈ p.kept moment rs) : ∃ s ∈ rs, r.name = s.name ∧
    r.version = s.version ∧ (r.name = p.manifest.name → p.leads moment rs = true →
      r.isLatest = false) := by
  obtain ⟨s, hs, rfl⟩ := List.mem_map.1 h
  refine ⟨s, hs, ?_⟩
  split
  · exact ⟨rfl, rfl, fun _ _ => rfl⟩
  · rename_i hno
    refine ⟨rfl, rfl, fun hn hleads => ?_⟩
    cases hl : s.isLatest with
    | false => rfl
    | true => exact absurd ⟨hleads, hn, hl⟩ hno

/-- If the new version does not take the place of another, all records are kept as they are. -/
theorem kept_eq_self (h : p.superseded moment rs = none) : p.kept moment rs = rs := by
  refine (List.map_congr_left fun r hr => ?_).trans (List.map_id rs)
  rw [if_neg]
  · rfl
  · rintro ⟨hleads, hn, hl⟩
    rw [superseded, if_pos hleads, Option.map_eq_none_iff] at h
    exact List.find?_eq_none.1 h r hr (by simp [hn, hl])

/-- The demotion of the latest version leaves the records that are kept. -/
theorem demoted_superseded (h : Orderly rs) :
    Memory.demoted rs (p.superseded moment rs) = .ok (p.kept moment rs) := by
  cases hsup : p.superseded moment rs with
  | none => rw [kept_eq_self hsup, Memory.demoted]
  | some d =>
      unfold superseded at hsup
      split at hsup
      · rename_i hleads
        obtain ⟨l, hlatest, rfl⟩ := Option.map_eq_some_iff.1 hsup
        obtain ⟨hl, hname, hflag⟩ := mem_latest? hlatest
        have hv : l.isVersion l.id l.version = true := Record.isVersion_iff.2 ⟨rfl, rfl⟩
        obtain ⟨i, hplace, hi⟩ := h.distinct.exists_place hl hv
        refine Memory.demote_eq_ok.2 ⟨i, l, hplace, hi, hflag, Eq.symm ?_⟩
        refine set_eq_map (fun r => p.leads moment rs ∧ r.name = p.manifest.name ∧ r.isLatest)
          (fun r => r.demoted moment.now) hi ⟨hleads, hname, hflag⟩ ?_
        -- no other record of the name is flagged
        rintro k r hk ⟨-, hn, hf⟩
        exact h.single hk hi (hn.trans hname.symm) hf hflag
      · cases hsup

/-- **Open gates leave no conflict for a commit to find.** -/
theorem committed_stored (h : Orderly rs) (hv : p.versionFlaw? rs = none) :
    Memory.committed rs (p.published moment rs) (p.superseded moment rs) =
      .ok (p.stored moment rs) := by
  have hnew := versionFlaw?_eq_none.1 hv
  refine Memory.committed_eq_ok.2 ⟨fun owner howner => ?_, p.kept moment rs, demoted_superseded h,
    Memory.insert_eq_ok.2 ⟨fun r hr hn => ?_, fun hleads r hr hn => ?_, rfl⟩⟩
  · have hfind : (rs.find? fun r => r.name = p.manifest.name) = some owner := howner
    show owner.id = p.owner moment rs
    rw [Publish.owner, hfind]
    rfl
  · obtain ⟨s, hs, hname, hver, -⟩ := mem_kept hr
    rw [hver]
    exact hnew s hs (hname.symm.trans hn)
  · obtain ⟨s, hs, -, -, hflag⟩ := mem_kept hr
    exact hflag hn hleads

end

/-! ### What is stored afterwards -/

section

variable {legible : Bag → Prop} {p : Publish} {moment : Moment} {rs : List Record}

/-- The identity of the name belongs to no other, if the fresh one belongs to none. -/
theorem name_of_id_eq_owner (h : Orderly rs) (hfresh : ∀ r ∈ rs, r.id ≠ moment.freshId) {r : Record}
    (hr : r ∈ rs) (hid : r.id = p.owner moment rs) : r.name = p.manifest.name := by
  unfold owner at hid
  cases hfind : rs.find? fun r => r.name = p.manifest.name with
  | none =>
      rw [hfind] at hid
      exact absurd hid (hfresh r hr)
  | some s =>
      rw [hfind, Option.map_some, Option.getD_some] at hid
      have hname : s.name = p.manifest.name := by simpa using List.find?_some hfind
      exact ((h.identity hr (List.mem_of_find?_eq_some hfind)).2 hid).trans hname

theorem planned_published (h : Orderly rs) :
    Planned (rs.map Record.imprint) (p.published moment rs) (p.superseded moment rs) := by
  rw [← record_eq_published h, ← demotion_eq_superseded]
  refine planned ?_
  intro x hx
  obtain ⟨hmem, hname⟩ := List.mem_filter.1 hx
  exact ⟨of_decide_eq_true hname, List.mem_map_of_mem hmem⟩

theorem map_imprint_stored (h : Orderly rs) (hv : p.versionFlaw? rs = none) :
    (p.stored moment rs).map Record.imprint =
      rs.map Record.imprint ++ [(p.published moment rs).imprint] :=
  h.distinct.map_imprint_committed (fun d hd => ((planned_published h).demotion d hd).1)
    (committed_stored h hv)

theorem mem_stored {r : Record} (h : r ∈ p.stored moment rs) :
    (∃ s ∈ rs, r = s ∨ r = s.demoted moment.now) ∨ r = p.published moment rs := by
  rcases List.mem_append.1 h with h | h
  · obtain ⟨s, hs, rfl⟩ := List.mem_map.1 h
    refine .inl ⟨s, hs, ?_⟩
    split
    · exact .inr rfl
    · exact .inl rfl
  · exact .inr (List.mem_singleton.1 h)

/-- **Open gates leave settled records.** -/
theorem settled_stored (hs : Settled legible rs) (hv : p.versionFlaw? rs = none)
    (hnow : moment.now.IsReading) (hera : moment.now.InEra) (hbag : legible p.submission.bag)
    (hfresh : ∀ r ∈ rs, r.id ≠ moment.freshId) : Settled legible (p.stored moment rs) where
  orderly := by
    refine hs.orderly.committed (planned_published hs.orderly) (fun m hm hid => ?_)
      (committed_stored hs.orderly hv)
    obtain ⟨r, hr, rfl⟩ := List.mem_map.1 hm
    exact name_of_id_eq_owner hs.orderly hfresh hr hid
  dated := by
    intro r hr
    rcases mem_stored hr with ⟨s, hmem, rfl | rfl⟩ | rfl
    · exact hs.dated r hmem
    · exact (hs.dated s hmem).demoted hnow
    · exact Registration.isDated_new hnow
  inEra := by
    intro r hr
    rcases mem_stored hr with ⟨s, hmem, rfl | rfl⟩ | rfl
    · exact hs.inEra r hmem
    · exact ⟨(hs.inEra s hmem).published, hera⟩
    · exact ⟨hera, hera⟩
  legible := by
    intro r hr
    rcases mem_stored hr with ⟨s, hmem, rfl | rfl⟩ | rfl
    · exact hs.legible r hmem
    · exact hs.legible s hmem
    · exact hbag

end

/-! ### The task -/

section

variable {legible : Bag → Prop} {p : Publish} {clock : Nat → Moment} {made : Nat}
  {rs : List Record}

/-- The task comes to what some gates say, with a record of the moment of a call, after at most so many
calls. -/
def Comes (legible : Bag → Prop) (clock : Nat → Moment) (made : Nat) (p : Publish)
    (rs : List Record) (most : Nat) (progress : Progress Phase Change) (flaw : Option Failure) :
    Prop :=
  ∃ n i, n ≤ most ∧ i < made + most ∧ p.machine.Ends legible clock made progress rs n
    (p.ending (clock i) rs flaw).1 (p.ending (clock i) rs flaw).2

theorem Comes.mono {most most' : Nat} {progress : Progress Phase Change} {flaw : Option Failure}
    (h : p.Comes legible clock made rs most progress flaw) (hle : most ≤ most') :
    p.Comes legible clock made rs most' progress flaw := by
  obtain ⟨n, i, hn, hi, hends⟩ := h
  exact ⟨n, i, Nat.le_trans hn hle, by omega, hends⟩

theorem comes_failed (f : Failure) {most : Nat} (hmost : 0 < most) :
    p.Comes legible clock made rs most (.finished (failed f)) (some f) :=
  ⟨0, made, Nat.zero_le _, Nat.lt_add_of_pos_right hmost, .finished _ _ _⟩

/-- A commit goes through if the version is new, whenever it was planned. -/
theorem ends_commit (hs : Settled legible rs) (hv : p.versionFlaw? rs = none) (left : Nat)
    (moment : Moment) :
    p.machine.Ends legible clock made
      (.running (.commit left ⟨p.published moment rs, p.superseded moment rs⟩)) rs 1
      (p.ending moment rs none).1 (p.ending moment rs none).2 := by
  have hplain : Plain (clock made).now rs
      (.commit (p.published moment rs) (p.superseded moment rs)) := by
    intro d hd
    unfold superseded at hd
    split at hd
    · obtain ⟨l, hlatest, rfl⟩ := Option.map_eq_some_iff.1 hd
      have hmem : l.imprint ∈ rs.map Record.imprint := List.mem_map_of_mem (mem_latest? hlatest).1
      exact ⟨hmem, rfl⟩
    · cases hd
  have hcall : Store.call (.commit (p.published moment rs) (p.superseded moment rs))
      (clock made).now (Memory.mk rs false) =
        (.ok (p.published moment rs), Memory.mk (p.stored moment rs) false) := by
    simp only [Store.call, Memory.commit_eq, Bool.false_eq_true, if_false,
      committed_stored hs.orderly hv]
  have hans : Answers legible (clock made).now rs
      (.commit (p.published moment rs) (p.superseded moment rs)) (p.published moment rs)
      (p.stored moment rs) := ⟨hs, hplain, hcall⟩
  exact .call (m := p.machine)
    (s := .commit left ⟨p.published moment rs, p.superseded moment rs⟩) hans (.finished _ _ _)

/-- From all versions of the name, a plan is made exactly if the last two gates are open. -/
theorem plan_eq (h : Orderly rs) (moment : Moment) :
    p.plan moment (rs.filter fun r => r.name = p.manifest.name) =
      match p.versionFlaw? rs <|> p.ceilingFlaw? rs with
      | some f => .error f
      | none => .ok ⟨p.published moment rs, p.superseded moment rs⟩ := by
  have hany : (rs.filter fun r => r.name = p.manifest.name).any
      (fun r => r.version = p.manifest.version) = true ↔
        ∃ r ∈ rs, r.name = p.manifest.name ∧ r.version = p.manifest.version := by
    simp
  -- the plan looks for the version first, and then for room
  by_cases hv : ∃ r ∈ rs, r.name = p.manifest.name ∧ r.version = p.manifest.version
  · rw [plan, versionFlaw?]
    simp only [if_pos hv, if_pos (hany.2 hv)]
    rfl
  · by_cases hroom : (rs.filter fun r => r.name = p.manifest.name).length < p.config.maxVersions
    · have hnew : ∀ r ∈ rs.filter fun r => r.name = p.manifest.name,
          r.version ≠ p.manifest.version := fun r hr hver =>
        hv (by simpa using hany.1 (List.any_eq_true.2 ⟨r, hr, by simpa using hver⟩))
      rw [plan_eq_ok.2 ⟨hnew, hroom, rfl⟩, versionFlaw?, if_neg hv, ceilingFlaw?, if_pos hroom,
        record_eq_published h, demotion_eq_superseded]
      rfl
    · rw [plan, versionFlaw?, ceilingFlaw?]
      simp only [if_neg hv, if_neg (fun h => hv (hany.1 h)), if_neg hroom,
        if_pos (Nat.le_of_not_lt hroom)]
      rfl

/-- The versions of the name are looked up, and then the version and the room for it tell. -/
theorem comes_lookup (hs : Settled legible rs) (hfits : rs.length ≤ Cursor.limit)
    (hroom : (rs.filter fun r => r.name = p.manifest.name).length ≤ p.config.maxVersions)
    (left : Nat) :
    p.Comes legible clock made rs (rs.length + 2)
      (.running (.lookup left (lookup p.config p.manifest.name)))
      (p.versionFlaw? rs <|> p.ceilingFlaw? rs) := by
  have hlisted := Listed.start { name := some p.manifest.name } hfits rfl
  have hselects : ∀ r : Record, ({ name := some p.manifest.name } : Filter).selects r =
      decide (r.name = p.manifest.name) := by
    intro r
    simp [Filter.selects, Filter.holds]
  obtain ⟨n, hpos, hn, hcollect⟩ := Collect.ends clock made hs (lookup p.config p.manifest.name)
    hlisted (Nat.le_max_right _ 1) rfl rfl
  have hlen := hlisted.length_le
  have hfilter : rs.filter (fun r => (lookup p.config p.manifest.name).filter.selects r) =
      rs.filter fun r => r.name = p.manifest.name :=
    List.filter_congr fun r _ => hselects r
  have hall : (rs.filter fun r => (lookup p.config p.manifest.name).filter.selects r).take
      (lookup p.config p.manifest.name).ceiling = rs.filter fun r => r.name = p.manifest.name := by
    rw [hfilter]
    exact List.take_of_length_le (Nat.le_trans hroom (Nat.le_max_left _ 1))
  rw [hall] at hcollect
  -- the moment of the last page is the one of the plan
  obtain ⟨k, hk, hnext⟩ : ∃ k, k ≤ 1 ∧ p.machine.Ends legible clock (made + n)
      (p.afterLookup left (clock (made + n - 1))
        (.ok (rs.filter fun r => r.name = p.manifest.name))) rs k
      (p.ending (clock (made + n - 1)) rs (p.versionFlaw? rs <|> p.ceilingFlaw? rs)).1
      (p.ending (clock (made + n - 1)) rs (p.versionFlaw? rs <|> p.ceilingFlaw? rs)).2 := by
    rw [afterLookup, plan_eq hs.orderly]
    cases hv : p.versionFlaw? rs with
    | some f => exact ⟨0, Nat.zero_le _, .finished _ _ _⟩
    | none =>
        cases hc : p.ceilingFlaw? rs with
        | some f => exact ⟨0, Nat.zero_le _, .finished _ _ _⟩
        | none => exact ⟨1, Nat.le_refl _, ends_commit hs hv left _⟩
  have hlast : (if n = 0 then clock made else clock (made + n - 1)) = clock (made + n - 1) :=
    if_neg (by omega)
  have hends := Machine.Ends.andThen (M := p.machine) (f := Phase.lookup left)
    (fun hans => ⟨_, hans, rfl⟩) hcollect (clock made) (by rwa [hlast])
  exact ⟨n + k, made + n - 1, by omega, by omega, hends⟩

/-- The URLs of the manifest are checked, and then the versions are looked up. -/
theorem comes_ownership (hs : Settled legible rs) (hfits : rs.length ≤ Cursor.limit)
    (hroom : (rs.filter fun r => r.name = p.manifest.name).length ≤ p.config.maxVersions) :
    p.Comes legible clock made rs (Ownership.rounds p.manifest rs.length + (rs.length + 2))
      ((Ownership.start p.manifest).andThen Phase.ownership p.afterOwnership)
      (p.urlFlaw? rs <|> p.versionFlaw? rs <|> p.ceilingFlaw? rs) := by
  obtain ⟨n, hn, hcheck⟩ := Ownership.ends clock made hs hfits p.manifest.name
    p.manifest.remoteUrls
  obtain ⟨k, i, hk, hi, hnext⟩ : p.Comes legible clock (made + n) rs (rs.length + 2)
      (p.afterOwnership (Ownership.outcome (p.urlFlaw? rs)))
      (p.urlFlaw? rs <|> p.versionFlaw? rs <|> p.ceilingFlaw? rs) := by
    cases p.urlFlaw? rs with
    | some f => exact comes_failed f (Nat.succ_pos _)
    | none => exact comes_lookup hs hfits hroom maxAttempts
  have hends := Machine.Ends.andThen (M := p.machine) (f := Phase.ownership)
    (fun hans => ⟨_, hans, rfl⟩) hcheck (clock made) hnext
  have hn' : n ≤ Ownership.rounds p.manifest rs.length := hn
  exact ⟨n + k, i, by omega, by omega, hends⟩

/-- Once the quota is decided in favour, the submission is checked, and then its URLs. -/
theorem comes_afterQuota (hs : Settled legible rs) (hfits : rs.length ≤ Cursor.limit)
    (hroom : (rs.filter fun r => r.name = p.manifest.name).length ≤ p.config.maxVersions)
    {decision : Quota.Decision} (hd : decision.verdict p.publisher.subject = .ok ()) :
    p.Comes legible clock made rs (Ownership.rounds p.manifest rs.length + (rs.length + 2))
      (p.afterQuota (.ok decision))
      (p.submission.flaw? p.config p.validator <|> p.urlFlaw? rs <|> p.versionFlaw? rs <|>
        p.ceilingFlaw? rs) := by
  rw [afterQuota, hd]
  cases hflaw : p.submission.flaw? p.config p.validator with
  | some f => exact comes_failed f (Nat.succ_pos _)
  | none => exact comes_ownership hs hfits hroom

/-- The publishes of the subject within a day are counted. -/
theorem answers_recent {now : Instant} (hs : Settled legible rs) (hera : now.InEra) :
    Answers legible now rs (.countRecent p.publisher.subject Quota.windowHours)
      (p.recent now rs) rs := by
  obtain ⟨since, hsince, hread, hyear⟩ := Instant.minusHours?_day hera
  refine ⟨hs, fun since' hsince' => ?_, ?_⟩
  · obtain rfl : since = since' := Option.some_inj.1 (hsince.symm.trans hsince')
    exact ⟨hread, hyear⟩
  · simp only [Store.call, Memory.countRecent, Bool.false_eq_true, if_false, Quota.windowHours,
      recent, hsince]
    rfl

/-- The gates in their order, those of the submission taken together. -/
theorem refusal?_eq (now : Instant) : p.refusal? now rs =
    (p.quotaFlaw? now rs <|> p.submission.flaw? p.config p.validator <|> p.urlFlaw? rs <|>
      p.versionFlaw? rs <|> p.ceilingFlaw? rs) := by
  have hcons : ∀ (gate : Option Failure) (more : List (Option Failure)),
      (gate :: more).findSome? id = (gate <|> more.findSome? id) := by
    intro gate more
    cases gate <;> rfl
  have hmanifest : p.submission.manifest = p.manifest := rfl
  simp only [refusal?, gates, hcons, List.findSome?_nil, Submission.flaw?, hmanifest]
  cases p.quotaFlaw? now rs <;> cases p.manifest.structureFlaw?.map Failure.invalidInput <;>
    cases p.submission.bagFlaw? p.config <;>
    cases (p.validator p.manifest).map Failure.validationFailed <;> cases p.urlFlaw? rs <;>
    cases p.versionFlaw? rs <;> cases p.ceilingFlaw? rs <;> rfl

/-- A larger store allows for more calls. -/
theorem rounds_mono (p : Publish) {size size' : Nat} (h : size ≤ size') :
    p.rounds size ≤ p.rounds size' := by
  unfold rounds Ownership.rounds Collect.rounds maxAttempts
  have hmul := Nat.mul_le_mul_left p.manifest.remoteUrls.length (Nat.add_le_add_right h 1)
  omega

/-- A publish without a limit goes on at once, one that is disabled fails at once, and otherwise the
publishes of the subject are counted first. -/
theorem start_cases (p : Publish) (now : Instant) (rs : List Record) :
    (p.start = p.afterQuota (.ok .unlimited) ∧ p.quotaFlaw? now rs = none) ∨
    (p.start = .finished (failed .publishingDisabled) ∧
      p.quotaFlaw? now rs = some .publishingDisabled) ∨
    (p.start = .running (.quota p.quota) ∧ p.quotaFlaw? now rs =
      if (p.recent now rs : Int) < p.config.dailyQuota then none
      else some (.rateLimitExceeded p.publisher.subject (p.recent now rs)
        p.config.dailyQuota.toNat)) := by
  by_cases hfree : p.publisher.isAdmin = true ∨ p.config.dailyQuota < 0
  · have hyes : (p.publisher.isAdmin || decide (p.config.dailyQuota < 0)) = true := by
      simpa using hfree
    have hquota : p.quota.start = .finished (.ok .unlimited) := if_pos hyes
    left
    rw [start, hquota]
    exact ⟨rfl, if_pos hfree⟩
  · have hbusy : ¬(p.publisher.isAdmin || decide (p.config.dailyQuota < 0)) = true := by
      simpa using hfree
    right
    -- both sides ask next whether publishing is disabled
    rw [start, Quota.start, quotaFlaw?, if_neg hfree]
    by_cases hzero : p.config.dailyQuota = 0
    · have hquota : p.quota.start = .finished (.ok .disabled) :=
        (if_neg hbusy).trans (if_pos hzero)
      left
      rw [Quota.start] at hquota
      rw [hquota, if_pos hzero]
      exact ⟨rfl, rfl⟩
    · have hquota : p.quota.start = .running p.quota := (if_neg hbusy).trans (if_neg hzero)
      right
      rw [Quota.start] at hquota
      rw [hquota, if_neg hzero]
      exact ⟨rfl, rfl⟩

/-- Once the publishes of the subject are counted, the count tells, and then the other gates. -/
theorem comes_counted (hs : Settled legible rs) (hfits : rs.length ≤ Cursor.limit)
    (hroom : (rs.filter fun r => r.name = p.manifest.name).length ≤ p.config.maxVersions)
    (hera : (clock made).now.InEra) (hflaw : p.quotaFlaw? (clock made).now rs =
      if (p.recent (clock made).now rs : Int) < p.config.dailyQuota then none
      else some (.rateLimitExceeded p.publisher.subject (p.recent (clock made).now rs)
        p.config.dailyQuota.toNat)) :
    p.Comes legible clock made rs (Ownership.rounds p.manifest rs.length + (rs.length + 2) + 1)
      (.running (.quota p.quota)) (p.refusal? (clock made).now rs) := by
  obtain ⟨n, i, hn, hi, hends⟩ : p.Comes legible clock (made + 1) rs
      (Ownership.rounds p.manifest rs.length + (rs.length + 2))
      (p.afterQuota (.ok (Quota.ofCount p.config.dailyQuota (p.recent (clock made).now rs))))
      (p.refusal? (clock made).now rs) := by
    rw [refusal?_eq, hflaw, Quota.ofCount]
    by_cases hless : (p.recent (clock made).now rs : Int) < p.config.dailyQuota
    · rw [if_pos hless, if_pos (by omega)]
      exact comes_afterQuota hs hfits hroom rfl
    · rw [if_neg hless, if_neg (by omega)]
      exact comes_failed _ (Nat.succ_pos _)
  have hans := answers_recent (p := p) hs hera
  exact ⟨n + 1, i, by omega, by omega, .call (m := p.machine) (s := .quota p.quota) hans hends⟩

/-- **An undisturbed publish comes to what the gates say**, after no more calls than it may make. -/
theorem ends (clock : Nat → Moment) (made : Nat) (hs : Settled legible rs)
    (hfits : rs.length ≤ Cursor.limit)
    (hroom : (rs.filter fun r => r.name = p.manifest.name).length ≤ p.config.maxVersions)
    (hera : (clock made).now.InEra) :
    p.Comes legible clock made rs (p.rounds rs.length) p.start
      (p.refusal? (clock made).now rs) := by
  have hrounds : Ownership.rounds p.manifest rs.length + (rs.length + 2) + 1 ≤
      p.rounds rs.length := by
    unfold rounds maxAttempts Collect.rounds
    omega
  rcases p.start_cases (clock made).now rs with ⟨hstart, hflaw⟩ | ⟨hstart, hflaw⟩ | ⟨hstart, hflaw⟩
  · rw [hstart, refusal?_eq, hflaw]
    exact (comes_afterQuota hs hfits hroom rfl).mono (by omega)
  · rw [hstart, refusal?_eq, hflaw]
    exact comes_failed _ (by omega)
  · rw [hstart]
    exact (comes_counted hs hfits hroom hera hflaw).mono hrounds

end

end Publish

end Service

end ManifestRegistry
