/-
**Nobody publishes more in a day than the quota.**

When a version is published, those that its publisher has published within the last 24 hours are counted,
and the version is refused if they make up the quota.  Nothing is counted that comes later, and the clock
may be turned back; even so no 24 hours whatever hold more than the quota, since of the versions in
them the one that was stored last was counted against all others.  For that it takes that who published
a version, and when, never changes again.

Main definitions:

* `Storage.Tally` — a store that counts its records;
* `Registry.Rationed` — no more than so many versions of a subject in any 24 hours;
* `Registry.Visits.Timed` — visits by a clock that stands still during each of them;
* `Registry.Visits.Plain` — visits at which a subject publishes as everybody else.

Main results:

* `Registry.Rationed.append` — **a version that was counted keeps all days within the quota**;
* `Registry.rationed_serveAll` — **any visits do**, in a list and in a table.
-/

import ManifestRegistry.Proofs.Instant.Windows
import ManifestRegistry.Proofs.Registry.Upshots
import ManifestRegistry.Proofs.Storage.Columns

set_option relaxedAutoImplicit false
set_option autoImplicit false

namespace ManifestRegistry

open Service Storage

/-! ### Stores that count -/

namespace Storage

/-- A store that counts the records that a subject published since some time, as long as their stamps are
in the order of time. -/
class Tally (σ : Type) [Store σ] [Ledger σ] : Prop where
  count {s : σ} {rs : List Record} (hk : Ledger.Keeps s rs) (hr : ∀ r ∈ rs, r.IsDated)
    (he : ∀ r ∈ rs, r.publishedAt.InEra) {now since : Instant} {hours : Nat}
    (hsince : now.minusHours? hours = some since) (hread : since.IsReading) (hyear : since.year ≤ 9999)
    (subject : String) : (Store.call (.countRecent subject hours) now s).1 =
      .ok (rs.countP (Memory.countsFor subject since))

instance : Tally Memory where
  count {m rs} hk _ _ now since hours hsince _ _ subject := by
    obtain ⟨hopen, rfl⟩ := hk
    simp only [Store.call, Memory.countRecent, hopen, Bool.false_eq_true, if_false, hsince]

instance : Tally Rows where
  count {t rs} hk hr he now since hours hsince hread hyear subject := by
    obtain ⟨hopen, hrows⟩ := hk
    simp only [Store.call, Rows.countRecent, hopen, Bool.false_eq_true, if_false, hsince, hrows,
      List.countP_map]
    refine congrArg Except.ok (List.countP_congr ?_)
    intro r hmem
    rw [Function.comp_apply, Rows.countsFor_ofRecord (hr r hmem) (he r hmem) hread hyear]

end Storage

namespace Registry

/-! ### Days -/

/-- A version that a subject published from one time to another, both included. -/
def published (subject : String) (since stop : Instant) (m : Imprint) : Bool :=
  m.publishedBy = some subject && !m.publishedAt.before since && !stop.before m.publishedAt

/-- A version that a subject published at some time or later. -/
def publishedSince (subject : String) (since : Instant) (m : Imprint) : Bool :=
  m.publishedBy = some subject && !m.publishedAt.before since

/-- In no 24 hours, both ends included, has a subject published more than so many of some versions. -/
def Rationed (quota : Nat) (subject : String) (ms : List Imprint) : Prop :=
  ∀ since stop : Instant, stop.minusHours? 24 = some since →
    ms.countP (published subject since stop) ≤ quota

variable {quota : Nat} {subject : String}

theorem Rationed.nil : Rationed quota subject [] := fun _ _ _ => Nat.zero_le _

/-- **A version that was counted keeps all days within the quota**: whatever was published in the same 24
hours was counted. -/
theorem Rationed.append {ms : List Imprint} {m : Imprint} (h : Rationed quota subject ms)
    (htick : m.publishedAt.IsTick)
    (hcount : m.publishedBy = some subject → ∃ since, m.publishedAt.minusHours? 24 = some since ∧
      ms.countP (publishedSince subject since) < quota) :
    Rationed quota subject (ms ++ [m]) := by
  intro since stop hday
  rw [List.countP_append, List.countP_singleton]
  by_cases hm : published subject since stop m = true
  · rw [if_pos hm]
    simp only [published, Bool.and_eq_true, decide_eq_true_eq, Bool.not_eq_true'] at hm
    obtain ⟨⟨hsubject, -⟩, hstop⟩ := hm
    obtain ⟨back, hback, hless⟩ := hcount hsubject
    -- the 24 hours before the version begin no later than those that end with `stop`
    have hearlier : since.before back = false := Instant.before_minusHours htick hstop hback hday
    have hcounted : ms.countP (published subject since stop) ≤
        ms.countP (publishedSince subject back) := by
      refine List.countP_mono_left ?_
      intro x _ hx
      simp only [published, Bool.and_eq_true, decide_eq_true_eq, Bool.not_eq_true'] at hx
      simp only [publishedSince, Bool.and_eq_true, decide_eq_true_eq, Bool.not_eq_true']
      exact ⟨hx.1.1, Instant.before_trans_eq_false hearlier hx.1.2⟩
    omega
  · rw [if_neg hm]
    exact h since stop hday

/-! ### Visits -/

/-- Visits by a clock that counts no leap seconds, shows years that are written without a sign, and stands
still during each of them; no identity is offered twice.  Between two visits the clock may have been
turned back. -/
structure Visits.Timed (vs : List Visit) : Prop where
  ticks : ∀ v ∈ vs, ∀ i, (v.clock i).now.IsTick
  inEra : ∀ v ∈ vs, ∀ i, (v.clock i).now.InEra
  still : ∀ v ∈ vs, ∀ i j, (v.clock i).now = (v.clock j).now
  fresh : vs.Pairwise fun u v => ∀ i j, (u.clock i).freshId ≠ (v.clock j).freshId

/-- Visits at which a subject never publishes as an admin. -/
def Visits.Plain (subject : String) (vs : List Visit) : Prop :=
  ∀ v ∈ vs, ∀ submission publisher, v.demand = .publish submission publisher →
    publisher.subject = subject → publisher.isAdmin = false

theorem Visits.Timed.left {us vs : List Visit} (h : Visits.Timed (us ++ vs)) : Visits.Timed us where
  ticks v hv := h.ticks v (List.mem_append_left _ hv)
  inEra v hv := h.inEra v (List.mem_append_left _ hv)
  still v hv := h.still v (List.mem_append_left _ hv)
  fresh := (List.pairwise_append.1 h.fresh).1

theorem Demand.request_eq_publish {config : Config} {validator : Manifest.Validator} {p : Publish}
    (demand : Demand) (h : demand.request config validator = .publish p) :
    ∃ submission publisher, demand = .publish submission publisher ∧
      p = ⟨config, validator, submission, publisher⟩ := by
  cases demand with
  | publish submission publisher =>
      obtain rfl := Request.publish.inj h
      exact ⟨submission, publisher, rfl, rfl⟩
  | edit id submission editor => cases h

section

variable {σ : Type} [Store σ] [Ledger σ]

/-- What is known of the records between two visits: they last, and all days are within the quota. -/
structure Metered (quota : Nat) (subject : String) (s : σ) (rs : List Record) (past : List Visit) :
    Prop where
  lasting : Lasting s rs past
  inEra : ∀ m ∈ rs.map Record.imprint, m.publishedAt.InEra
  rationed : Rationed quota subject (rs.map Record.imprint)

theorem metered_opening {s : σ} (hk : Ledger.Keeps s []) : Metered quota subject s [] [] where
  lasting := lasting_opening hk
  inEra _ h := absurd h List.not_mem_nil
  rationed := .nil

variable [Tally σ] {r : Registry σ} {rs rs' : List Record} {past : List Visit} {v : Visit}

/-- The quota lets nobody through but admins who has published as much since a day ago. -/
theorem Metered.counted {s : σ} (h : Metered quota subject s rs past) {p : Publish}
    {clock : Nat → Moment} (hgranted : p.Granted σ clock rs) (hquota : p.config.dailyQuota = quota)
    (hplain : p.publisher.isAdmin = false) {now : Instant} (hnow : ∀ i, (clock i).now = now)
    (hera : now.InEra) : ∃ since, now.minusHours? 24 = some since ∧
      (rs.map Record.imprint).countP (publishedSince p.publisher.subject since) < quota := by
  obtain ⟨since, hsince, hread, hyear⟩ := Instant.minusHours?_day hera
  refine ⟨since, hsince, ?_⟩
  rcases hgranted with hadmin | hnone | ⟨s', i, used, hk, hcount, hless⟩
  · rw [hplain] at hadmin
    cases hadmin
  · omega
  · have hall : ∀ r ∈ rs, r.publishedAt.InEra := fun r hr =>
      h.inEra r.imprint (List.mem_map_of_mem hr)
    rw [hnow, Quota.windowHours, Tally.count hk h.lasting.dated hall hsince hread hyear] at hcount
    obtain rfl := Except.ok.inj hcount
    rw [hquota, Int.toNat_natCast] at hless
    rwa [List.countP_map]

theorem Metered.serve (h : Metered quota subject r.store rs past)
    (hquota : r.config.dailyQuota = quota) (hv : Visits.Timed (past ++ [v]))
    (hplain : Visits.Plain subject [v]) :
    ∃ rs', Metered quota subject (r.serve v).store rs' (past ++ [v]) := by
  have hmem : v ∈ past ++ [v] := List.mem_append_right _ List.mem_cons_self
  have hread : ∀ i, (v.clock i).now.IsReading := fun i => (hv.ticks v hmem i).isReading
  have hnew : ∀ i, ¬Visits.Offered past (v.clock i).freshId :=
    Visits.not_offered hv.fresh List.mem_cons_self
  obtain ⟨s, rs', hk, hupshot, hvisit⟩ :=
    visited_upshot h.lasting.keeps h.lasting.distinct h.lasting.dated hread
  have hstore : (r.serve v).store = s := by rw [← visited_snd, hvisit, concluded_store]
  rw [hstore]
  have hlasting := h.lasting.upshot hupshot hread hnew hk
  refine ⟨rs', ?_⟩
  rcases hupshot.map_imprint h.lasting.distinct with hsame | ⟨p, i, existing, hp, hgranted, hadd⟩
  · exact ⟨hlasting, hsame ▸ h.inEra, hsame ▸ h.rationed⟩
  · obtain ⟨submission, publisher, hdemand, rfl⟩ := v.demand.request_eq_publish hp
    refine ⟨hlasting, ?_, ?_⟩
    · rw [hadd]
      intro m hm
      rcases List.mem_append.1 hm with hm | hm
      · exact h.inEra m hm
      · rw [List.mem_singleton.1 hm]
        exact hv.inEra v hmem i
    · rw [hadd]
      refine h.rationed.append (hv.ticks v hmem i) ?_
      intro hsubject
      obtain rfl : publisher.subject = subject := Option.some_inj.1 hsubject
      exact h.counted hgranted hquota (hplain v List.mem_cons_self _ _ hdemand rfl)
        (fun j => hv.still v hmem j i) (hv.inEra v hmem i)

theorem Metered.serveAll (h : Metered quota subject r.store rs past)
    (hquota : r.config.dailyQuota = quota) {vs : List Visit} (hv : Visits.Timed (past ++ vs))
    (hplain : Visits.Plain subject vs) :
    ∃ rs', Metered quota subject (r.serveAll vs).store rs' (past ++ vs) := by
  induction vs generalizing r rs past with
  | nil =>
      rw [List.append_nil]
      exact ⟨rs, h⟩
  | cons v vs ih =>
      have hsplit : past ++ v :: vs = past ++ [v] ++ vs := by simp
      rw [hsplit] at hv ⊢
      have hone : Visits.Plain subject [v] := by
        intro u hu
        obtain rfl := List.mem_singleton.1 hu
        exact hplain u List.mem_cons_self
      obtain ⟨rs₁, h₁⟩ := h.serve hquota hv.left hone
      refine ih h₁ ?_ hv fun u hu => hplain u (List.mem_cons_of_mem _ hu)
      rwa [config_serve]

end

/-- **Any visits keep all days within the quota**: whoever publishes only as everybody else has published no
more than so many versions in any 24 hours, of those in a list, and of those that the rows of a table
hold. -/
theorem rationed_serveAll (config : Config) (validator : Manifest.Validator) (events : Broadcast Event)
    (hquota : config.dailyQuota = quota) {visits : List Visit} (hv : Visits.Timed visits)
    (hplain : Visits.Plain subject visits) :
    Rationed quota subject ((serveAll ⟨config, validator, ({} : Memory), events⟩ visits).store.records.map
      Record.imprint) ∧
    ∃ rs : List Record,
      (serveAll ⟨config, validator, ({} : Rows), events⟩ visits).store.rows = rs.map Row.ofRecord ∧
      Rationed quota subject (rs.map Record.imprint) := by
  constructor
  · have hopening : Metered quota subject ({} : Memory) [] [] := metered_opening Memory.keeps_empty
    obtain ⟨rs, h⟩ := Metered.serveAll
      (r := (⟨config, validator, {}, events⟩ : Registry Memory)) hopening hquota hv hplain
    obtain ⟨-, rfl⟩ := h.lasting.keeps
    exact h.rationed
  · have hopening : Metered quota subject ({} : Rows) [] [] := metered_opening Rows.keeps_empty
    obtain ⟨rs, h⟩ := Metered.serveAll
      (r := (⟨config, validator, {}, events⟩ : Registry Rows)) hopening hquota hv hplain
    exact ⟨rs, h.lasting.keeps.2, h.rationed⟩

/-- A publish of a version, so many seconds after the beginning of 1970. -/
def issue (version : String) (seconds id : Nat) : Visit where
  clock _ := ⟨(Instant.ofParts? seconds 0).getD .epoch, ⟨id⟩⟩
  demand := .publish { manifest := Race.manifest version "" } { subject := "s" }

/-- A version, another one 24 hours later and one a second after that; then the clock is turned back. -/
def issues : List Visit :=
  [issue "1.0.0" 86400 1, issue "2.0.0" 172800 2, issue "3.0.0" 172801 3, issue "4.0.0" 86401 4]

theorem timed_issues : Visits.Timed issues := by
  have hnow : ∀ v ∈ issues, ∃ now : Instant,
      now.IsTick ∧ now.InEra ∧ ∀ i, (v.clock i).now = now := by
    intro v hv
    simp only [issues, List.mem_cons, List.not_mem_nil, or_false] at hv
    rcases hv with rfl | rfl | rfl | rfl <;> exact ⟨_, by decide, by decide, fun _ => rfl⟩
  refine ⟨?_, ?_, ?_, ?_⟩
  · intro v hv i
    obtain ⟨now, htick, -, hclock⟩ := hnow v hv
    rw [hclock]
    exact htick
  · intro v hv i
    obtain ⟨now, -, hera, hclock⟩ := hnow v hv
    rw [hclock]
    exact hera
  · intro v hv i j
    obtain ⟨now, -, -, hclock⟩ := hnow v hv
    rw [hclock, hclock]
  · simp [issues, issue]

theorem plain_issues : Visits.Plain "s" issues := by
  intro v hv submission publisher hdemand _
  simp only [issues, List.mem_cons, List.not_mem_nil, or_false] at hv
  rcases hv with rfl | rfl | rfl | rfl <;> obtain ⟨-, rfl⟩ := Demand.publish.inj hdemand <;> rfl

/-- A version 24 hours after the first one is refused, and so is one while the clock is turned back. -/
theorem rationed_serveAll_issues :
    (({ dailyQuota := 1 } : Config).dailyQuota = (1 : Nat) ∧ Visits.Timed issues ∧
      Visits.Plain "s" issues) ∧
    (serveAll ⟨{ dailyQuota := 1 }, fun _ => none, ({} : Memory), { room := 1 }⟩ issues).store.records.map
      (fun r => (r.version, r.publishedAt.seconds)) = [("1.0.0", 86400), ("3.0.0", 172801)] ∧
    Rationed 1 "s" ((serveAll ⟨{ dailyQuota := 1 }, fun _ => none, ({} : Memory), { room := 1 }⟩
      issues).store.records.map Record.imprint) ∧
    ∃ rs : List Record, (serveAll ⟨{ dailyQuota := 1 }, fun _ => none, ({} : Rows), { room := 1 }⟩
      issues).store.rows = rs.map Row.ofRecord ∧ Rationed 1 "s" (rs.map Record.imprint) :=
  ⟨⟨rfl, timed_issues, plain_issues⟩, by decide +kernel,
    rationed_serveAll _ _ _ rfl timed_issues plain_issues⟩

end Registry

end ManifestRegistry
