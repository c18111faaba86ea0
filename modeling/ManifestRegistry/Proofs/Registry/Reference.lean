/-
**A reference for publishes.**

After any visits, one by one, a publish comes to what its gates say of the records that are stored: it
goes through exactly if all of them are open, and if not, the first one that is closed tells the failure
and nothing is stored.  Publishes within a day are counted by the time of its first call, and what is
stored bears the time of a later one.  A list and a table come to the same.

Main definitions:

* `Service.Publish.Concludes` — **the outcome and the records that the gates ask for**.

Main results:

* `Registry.Kept.concludes` — a publish between two visits concludes;
* `Registry.publish_concludes` — **a publish after any visits concludes**, in a list and in a table.
-/

import ManifestRegistry.Proofs.Registry.Visits
import ManifestRegistry.Proofs.Service.Interleaving

set_option relaxedAutoImplicit false
set_option autoImplicit false

namespace ManifestRegistry

open Service Storage

/-- The outcome of a publish whose calls have the moments of a clock, and the records `rs'` after it if
`rs` were stored before: what the gates ask for. -/
structure Service.Publish.Concludes (p : Publish) (clock : Nat → Moment) (rs : List Record)
    (outcome : Outcome Record) (rs' : List Record) : Prop where
  ok_iff : (∃ record, outcome = .ok record) ↔ p.Admits (clock 0).now rs
  refused : ¬p.Admits (clock 0).now rs → ∃ f, p.refusal? (clock 0).now rs = some f ∧
    outcome = .error (.failed f) ∧ rs' = rs
  accepted : p.Admits (clock 0).now rs → ∃ i < p.rounds rs.length,
    outcome = .ok (p.published (clock i) rs) ∧ rs' = p.stored (clock i) rs

theorem Service.Publish.concludes_ending (p : Publish) (clock : Nat → Moment) (rs : List Record)
    {i : Nat} (hi : i < p.rounds rs.length) :
    p.Concludes clock rs ((p.ending (clock i) rs (p.refusal? (clock 0).now rs)).1.map Prod.fst)
      (p.ending (clock i) rs (p.refusal? (clock 0).now rs)).2 := by
  cases href : p.refusal? (clock 0).now rs with
  | some f =>
      have hno : ¬p.Admits (clock 0).now rs := fun ha => by
        rw [Publish.refusal?_eq_none.2 ha] at href
        cases href
      refine ⟨⟨fun ⟨_, hok⟩ => ?_, fun ha => absurd ha hno⟩, fun _ => ⟨f, href, rfl, rfl⟩,
        fun ha => absurd ha hno⟩
      cases hok
  | none =>
      have ha := Publish.refusal?_eq_none.1 href
      exact ⟨⟨fun _ => ha, fun _ => ⟨_, rfl⟩⟩, fun hno => absurd ha hno,
        fun _ => ⟨i, hi, rfl, rfl⟩⟩

namespace Registry

/-- **A publish between two visits concludes.** -/
theorem Kept.concludes {σ : Type} [Store σ] [Ledger σ] [Exact σ] {r : Registry σ}
    {rs : List Record} {clock : Nat → Moment} {config : Config} {validator : Manifest.Validator}
    {past : List Visit} (h : Kept config validator r rs past) (hfew : past.length ≤ Cursor.limit)
    (hera : (clock 0).now.InEra) (submission : Submission) (publisher : Publisher) :
    ∃ rs', Ledger.Keeps (r.publishAt clock submission publisher).2.store rs' ∧
      Publish.Concludes ⟨config, validator, submission, publisher⟩ clock rs
        (r.publishAt clock submission publisher).1 rs' := by
  obtain ⟨s, i, hi, hs, hres⟩ := h.publish hfew hera submission publisher
  have hconcludes := Publish.concludes_ending ⟨config, validator, submission, publisher⟩ clock rs hi
  rw [hres, concluded_store, concluded_fst]
  exact ⟨_, hs, hconcludes⟩

/-- **A publish after any visits concludes**, in a list as well as in a table, which reads each of its
rows as the record that is stored. -/
theorem publish_concludes (config : Config) (validator : Manifest.Validator)
    (events : Broadcast Event) {visits : List Visit} (hf : Visits.Fair visits)
    (clock : Nat → Moment) (hera : (clock 0).now.InEra) (submission : Submission) (publisher : Publisher) :
    (let r : Registry Memory := serveAll ⟨config, validator, {}, events⟩ visits;
      Publish.Concludes ⟨config, validator, submission, publisher⟩ clock r.store.records
        (r.publishAt clock submission publisher).1
        (r.publishAt clock submission publisher).2.store.records) ∧
    ((∀ v ∈ visits, v.demand.bag.Lossless) →
      let r : Registry Rows := serveAll ⟨config, validator, {}, events⟩ visits
      ∃ rs rs', r.store.rows = rs.map Row.ofRecord ∧ r.store.rows.map Row.record? = rs.map .ok ∧
        (r.publishAt clock submission publisher).2.store.rows = rs'.map Row.ofRecord ∧
        Publish.Concludes ⟨config, validator, submission, publisher⟩ clock rs
          (r.publishAt clock submission publisher).1 rs') := by
  -- every bag in a list is read back as it is
  refine ⟨?_, fun hbags => ?_⟩
  · obtain ⟨rs, h⟩ := kept_serveAll Memory.keeps_empty config validator events hf
      fun _ _ => trivial
    obtain ⟨rs', ⟨-, hrs'⟩, hres⟩ := h.concludes hf.few hera submission publisher
    obtain ⟨-, hrs⟩ := h.keeps
    subst hrs hrs'
    exact hres
  · obtain ⟨rs, h⟩ := kept_serveAll Rows.keeps_empty config validator events hf hbags
    obtain ⟨rs', ⟨-, hrs'⟩, hres⟩ := h.concludes hf.few hera submission publisher
    refine ⟨rs, rs', h.keeps.2, ?_, hrs', hres⟩
    rw [h.keeps.2, List.map_map]
    refine List.map_congr_left ?_
    intro x hx
    rw [Function.comp_apply, Rows.record?_of_settled h.settled hx]

/-- One visit, with a publish. -/
def firstVisit : Visit where
  clock _ := ⟨.epoch, ⟨0⟩⟩
  demand := .publish { manifest := Race.manifest "1.0.0" "" } { subject := "s" }

/-- The moments after it, each a second after the other. -/
def ticking (i : Nat) : Moment := ⟨(Instant.ofParts? i 0).getD .epoch, ⟨1⟩⟩

theorem fair_firstVisit : Visits.Fair [firstVisit] where
  readings v hv _ := by
    obtain rfl := List.mem_singleton.1 hv
    show Instant.epoch.IsReading
    decide
  inEra v hv _ := by
    obtain rfl := List.mem_singleton.1 hv
    show Instant.epoch.InEra
    decide
  fresh := List.pairwise_singleton _ _
  few := by decide

/-- A publish after one visit takes the place of the version that it brought. -/
theorem publish_concludes_firstVisit :
    Visits.Fair [firstVisit] ∧ (ticking 0).now.InEra ∧
    (let r : Registry Memory := serveAll ⟨{}, fun _ => none, {}, { room := 1 }⟩ [firstVisit];
      let after := r.publishAt ticking { manifest := Race.manifest "2.0.0" "" } { subject := "s" };
      after.2.store.records.map (fun r => (r.version, r.isLatest, r.publishedAt.seconds)) =
        [("1.0.0", false, 0), ("2.0.0", true, 1)] ∧
      Publish.Concludes ⟨{}, fun _ => none, { manifest := Race.manifest "2.0.0" "" },
        { subject := "s" }⟩ ticking r.store.records after.1 after.2.store.records) ∧
    (∀ v ∈ [firstVisit], v.demand.bag.Lossless) ∧
    (let r : Registry Rows := serveAll ⟨{}, fun _ => none, {}, { room := 1 }⟩ [firstVisit];
      let after := r.publishAt ticking { manifest := Race.manifest "2.0.0" "" } { subject := "s" };
      ∃ rs rs', r.store.rows = rs.map Row.ofRecord ∧ r.store.rows.map Row.record? = rs.map .ok ∧
        after.2.store.rows = rs'.map Row.ofRecord ∧
        Publish.Concludes ⟨{}, fun _ => none, { manifest := Race.manifest "2.0.0" "" },
          { subject := "s" }⟩ ticking rs after.1 rs') := by
  have hera : (ticking 0).now.InEra := by decide
  have hbags : ∀ v ∈ [firstVisit], v.demand.bag.Lossless := by
    intro v hv
    obtain rfl := List.mem_singleton.1 hv
    rfl
  obtain ⟨hlist, htable⟩ := publish_concludes {} (fun _ => none) { room := 1 } fair_firstVisit
    ticking hera { manifest := Race.manifest "2.0.0" "" } { subject := "s" }
  exact ⟨fair_firstVisit, hera, ⟨by decide +kernel, hlist⟩, hbags, htable hbags⟩

end Registry

end ManifestRegistry
