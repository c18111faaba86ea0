/-
**What comes of a visit.**

A visitor is told what the visit has come to, and this is also what has become of the records: nothing
was asked for in vain and changed all the same, and nothing was changed that the visitor is not told.
Records stay what they are known to be from one visit to the next, whatever comes of them.

Main results:

* `Registry.visited_upshot` — **what a visitor is told is what has become of the records**;
* `Registry.Lasting.upshot`, `Registry.Lasting.orderly` — records last, and stay orderly.
-/

import ManifestRegistry.Proofs.Registry.Growth
import ManifestRegistry.Proofs.Service.Courses

set_option relaxedAutoImplicit false
set_option autoImplicit false

namespace ManifestRegistry

open Service Storage

namespace Registry

variable {σ : Type} [Store σ] [Ledger σ] {rs rs' : List Record} {v : Visit} {past : List Visit} {s s' : σ}

/-- **What a visitor is told is what has become of the records.** -/
theorem visited_upshot {r : Registry σ} (hk : Ledger.Keeps r.store rs)
    (hd : Distinct (rs.map Record.imprint)) (hr : ∀ r ∈ rs, r.IsDated)
    (hread : ∀ i, (v.clock i).now.IsReading) :
    ∃ s rs', Ledger.Keeps s rs' ∧
      Upshot σ v.clock rs (v.demand.request r.config r.validator) (r.account v) rs' ∧
      r.visited v = r.concluded s (r.account v) := by
  let request := v.demand.request r.config r.validator
  have hstep : ∀ (i : Nat) (job : Job) (s : σ),
      (∃ rs', Ledger.Keeps s rs' ∧ job.Course σ v.clock rs rs' ∧ job.request = request) →
      ∃ rs', Ledger.Keeps (job.turn (v.clock i) s).2 rs' ∧
        (job.turn (v.clock i) s).1.Course σ v.clock rs rs' ∧
        (job.turn (v.clock i) s).1.request = request := by
    rintro i job s ⟨rs₁, hk₁, hcourse, hrequest⟩
    obtain ⟨rs₂, hk₂, hcourse₂⟩ := hcourse.turn hk₁ hd hr hread i
    exact ⟨rs₂, hk₂, hcourse₂, (Job.request_turn ..).trans hrequest⟩
  obtain ⟨job, s, ⟨rs', hk', hcourse, hrequest⟩, haccount, hvisit⟩ := visited_keeps hstep
    ⟨rs, hk, .inl ⟨rfl, Job.aware_job request⟩, Job.request_job request⟩
  have hupshot := hcourse.upshot
  rw [hrequest] at hupshot
  rw [haccount]
  exact ⟨s, rs', hk', hupshot, hvisit⟩

section

variable {request : Request} {change : Change} (h : Lasting s rs past)
  (hupshot : Upshot σ v.clock rs request change rs') (hread : ∀ i, (v.clock i).now.IsReading)
  (hnew : ∀ i, ¬Visits.Offered past (v.clock i).freshId)
include h hupshot hread hnew

/-- What comes of a visit keeps records orderly. -/
theorem Lasting.orderly (ho : Orderly rs) : Orderly rs' := by
  obtain ⟨job, job', i, haware, hmove⟩ := hupshot.move h.distinct
  refine hmove.orderly ho (haware.sound h.dated hread) (haware.heeds h.distinct) ?_
    (.inr (haware.not_revives h.distinct h.dated hread))
  intro id name hc m hm hid
  exact h.claim_name hnew (haware.claim hc) hm hid

/-- **What is known of the records between two visits is known after the visit.** -/
theorem Lasting.upshot (hk : Ledger.Keeps s' rs') : Lasting s' rs' (past ++ [v]) := by
  obtain ⟨job, job', i, haware, hmove⟩ := hupshot.move h.distinct
  have hmidway : Midway rs past v job s rs := by
    refine ⟨h.keeps, h.distinct, h.dated, haware.sound h.dated hread, .inl ⟨rfl, ?_⟩⟩
    intro id name hc
    exact haware.claim hc
  exact (h.of_midway (hmidway.of_move h i (hread i) hnew hk hmove)).1

end

end Registry

end ManifestRegistry
