/-
**A visit is a job that nobody disturbs.**

Whoever visits a registry makes all calls of a publish or an edit one after the other.  What every call of
the job keeps is therefore so when the visitor leaves, however many calls it took and whatever came of
them; nothing need be known of the store for that.

Main definitions:

* `Registry.Demand.request` — what a visitor asks for, as a request;
* `Registry.visited` — the answer to a visitor, and the registry afterwards;
* `Registry.account` — what a visit comes to: the visitor's answer and what listeners are told.

Main results:

* `Service.Machine.runAt_keeps` — what every call of a task keeps is kept by running it;
* `Registry.visited_eq` — a visit leaves a registry concluded by what it comes to;
* `Registry.visited_keeps`, `Registry.serve_keeps` — **what every call of the job keeps is kept by a
  visit**, and the job's result is what the visitor is told.
-/

import ManifestRegistry.Proofs.Registry.Visits
import ManifestRegistry.Proofs.Service.Interleaving

set_option relaxedAutoImplicit false
set_option autoImplicit false

namespace ManifestRegistry

open Service Storage

/-- What every call of a task keeps is kept by running it, as far as its calls go. -/
theorem Service.Machine.runAt_keeps {τ ρ α : Type} (m : Machine τ ρ)
    (call : Instant → (c : Call) → α → Reply c.Answer × α) (clock : Nat → Moment)
    (Inv : Progress τ ρ → α → Prop)
    (hstep : ∀ i state s, Inv (.running state) s →
      Inv (m.step (call (clock i).now) (clock i) state s).1
        (m.step (call (clock i).now) (clock i) state s).2)
    (rounds made : Nat) {progress : Progress τ ρ} {s : α} (h : Inv progress s) :
    ∃ progress', Inv progress' (m.runAt call clock rounds made progress s).2 ∧
      (m.runAt call clock rounds made progress s).1 = progress'.result? := by
  -- one call after the other, as long as there are rounds and the task is at work
  induction rounds generalizing made progress s with
  | zero => cases progress <;> exact ⟨_, h, rfl⟩
  | succ rounds ih =>
      cases progress with
      | finished r => exact ⟨_, h, rfl⟩
      | running state =>
          rw [runAt]
          exact ih (made + 1) (hstep made state s h)

namespace Registry

/-- What a visitor asks for, under the settings of a registry. -/
def Demand.request (config : Config) (validator : Manifest.Validator) : Demand → Request
  | .publish submission publisher => .publish ⟨config, validator, submission, publisher⟩
  | .edit id submission editor => .edit ⟨config, validator, id, submission, editor⟩

section

variable {σ : Type} [PacedStore σ] (r : Registry σ)

/-- The answer to a visitor, and the registry afterwards. -/
def visited (v : Visit) : Outcome Record × Registry σ :=
  match v.demand with
  | .publish submission publisher => r.publishAt v.clock submission publisher
  | .edit id submission editor => r.editAt v.clock id submission editor

@[simp] theorem visited_snd (v : Visit) : (r.visited v).2 = r.serve v := by
  obtain ⟨clock, demand⟩ := v
  cases demand <;> rfl

/-- What a change comes to is what its task comes to. -/
theorem change_eq {τ : Type} (m : Machine τ Change) (start : Progress τ Change)
    (clock : Nat → Moment) (rounds : Nat) : r.change m start clock rounds =
      r.concluded (m.runAt r.call clock rounds 0 start r.store).2
        ((m.runAt r.call clock rounds 0 start r.store).1.getD (.error .crashed)) := by
  unfold change runTask
  obtain ⟨result, s⟩ := m.runAt r.call clock rounds 0 start r.store
  rcases result with _ | _ | ⟨_, _⟩ <;> rfl

/-- What a visit comes to: what is stored and what listeners are told, or why nothing came of it. -/
def account (v : Visit) : Change :=
  match v.demand.request r.config r.validator with
  | .publish p => (r.runTask p.machine p.start v.clock (p.rounds (PacedStore.size r.store))).1
  | .edit e => (r.runTask e.machine e.start v.clock (e.rounds (PacedStore.size r.store))).1

/-- **A visit leaves a registry concluded by what it comes to.** -/
theorem visited_eq (v : Visit) :
    r.visited v = r.concluded (r.visited v).2.store (r.account v) := by
  obtain ⟨clock, demand⟩ := v
  cases demand <;>
    simp only [visited, publishAt, editAt, change_eq, concluded_store] <;> rfl

@[simp] theorem config_serve (v : Visit) : (r.serve v).config = r.config := by
  obtain ⟨clock, demand⟩ := v
  cases demand <;> simp only [serve, publishAt, editAt, change_eq, concluded_config]

@[simp] theorem validator_serve (v : Visit) : (r.serve v).validator = r.validator := by
  obtain ⟨clock, demand⟩ := v
  cases demand <;> simp only [serve, publishAt, editAt, change_eq, concluded_validator]

@[simp] theorem config_serveAll (vs : List Visit) : (r.serveAll vs).config = r.config := by
  induction vs generalizing r with
  | nil => rfl
  | cons v vs ih => exact (ih (r.serve v)).trans (r.config_serve v)

@[simp] theorem validator_serveAll (vs : List Visit) : (r.serveAll vs).validator = r.validator := by
  induction vs generalizing r with
  | nil => rfl
  | cons v vs ih => exact (ih (r.serve v)).trans (r.validator_serve v)

end

variable {σ : Type} [Store σ]

/-- **What every call of the job keeps is kept by a visit**, which comes to what the job has come to. -/
theorem visited_keeps {r : Registry σ} {v : Visit} {Inv : Job → σ → Prop}
    (hstep : ∀ i job s, Inv job s → Inv (job.turn (v.clock i) s).1 (job.turn (v.clock i) s).2)
    (h : Inv (v.demand.request r.config r.validator).job r.store) :
    ∃ job s, Inv job s ∧ r.account v = job.result ∧ r.visited v = r.concluded s job.result := by
  obtain ⟨clock, demand⟩ := v
  cases demand with
  | publish submission publisher =>
      let p : Publish := ⟨r.config, r.validator, submission, publisher⟩
      obtain ⟨progress, hend, hresult⟩ := p.machine.runAt_keeps r.call clock
        (fun progress s => Inv (.publish p progress) s)
        (fun i state s hs => hstep i _ s hs) (p.rounds (PacedStore.size r.store)) 0 h
      refine ⟨.publish p progress, _, hend, congrArg (Option.getD · _) hresult, ?_⟩
      show r.change p.machine p.start clock _ = _
      rw [change_eq, hresult]
      rfl
  | edit id submission editor =>
      let e : Edit := ⟨r.config, r.validator, id, submission, editor⟩
      obtain ⟨progress, hend, hresult⟩ := e.machine.runAt_keeps r.call clock
        (fun progress s => Inv (.edit e progress) s)
        (fun i state s hs => hstep i _ s hs) (e.rounds (PacedStore.size r.store)) 0 h
      refine ⟨.edit e progress, _, hend, congrArg (Option.getD · _) hresult, ?_⟩
      show r.change e.machine e.start clock _ = _
      rw [change_eq, hresult]
      rfl

/-- What every call of the job keeps is kept by a visit. -/
theorem serve_keeps {r : Registry σ} {v : Visit} {Inv : Job → σ → Prop}
    (hstep : ∀ i job s, Inv job s → Inv (job.turn (v.clock i) s).1 (job.turn (v.clock i) s).2)
    (h : Inv (v.demand.request r.config r.validator).job r.store) :
    ∃ job, Inv job (r.serve v).store := by
  obtain ⟨job, s, hs, -, hvisit⟩ := visited_keeps hstep h
  refine ⟨job, ?_⟩
  rw [← visited_snd, hvisit, concluded_store]
  exact hs

end Registry

end ManifestRegistry
