/-
**Tasks made of storage calls.**

What the registry does for someone is a task: it asks the store something, goes on with the answer,
and so on until it has a result.  Between two calls of a task anything may happen to the store, so a
task is kept as a machine whose states say what it knows so far.

Main definitions:

* `Service.Moment` — what a task is told besides the answer: the time and an identity nobody has;
* `Service.Progress` — at work in some state, or done with a result;
* `Service.Machine` — what each state asks and where each answer leads;
* `Service.Machine.step` — **one call**;
* `Service.Machine.runAt`, `Service.Machine.run` — calls one after the other, undisturbed, each at its
  own moment or all at one.
-/

import ManifestRegistry.Storage.Call

set_option relaxedAutoImplicit false
set_option autoImplicit false

namespace ManifestRegistry

namespace Service

open Storage

/-- What a task is told besides an answer. -/
structure Moment where
  now : Instant
  /-- An identity that no server has. -/
  freshId : Uuid

/-- A task at work in some state, or done with a result. -/
inductive Progress (σ ρ : Type) where
  | running (s : σ)
  | finished (r : ρ)

/-- The same task with its states seen as those of a larger one, going on after its result. -/
def Progress.andThen {σ ρ σ' ρ' : Type} (f : σ → σ') (next : ρ → Progress σ' ρ') :
    Progress σ ρ → Progress σ' ρ'
  | running s => running (f s)
  | finished r => next r

/-- What each state of a task asks, and where each answer leads. -/
structure Machine (σ ρ : Type) where
  ask : σ → Call
  receive : (s : σ) → Moment → Reply (ask s).Answer → Progress σ ρ

/-- The result of a task: a value, a failure or a crash. -/
abbrev Outcome (α : Type) := Except (Stop Failure) α

/-- A task that failed. -/
def failed {α : Type} (f : Failure) : Outcome α := .error (.failed f)

/-- What a store's reply means to a caller. -/
def ofReply {α : Type} : Reply α → Outcome α
  | .ok a => .ok a
  | .error stop => .error (stop.map Failure.ofStorage)

namespace Machine

variable {σ ρ τ : Type}

/-- One call of a task to a store. -/
def step (m : Machine σ ρ) (call : (c : Call) → τ → Reply c.Answer × τ) (moment : Moment) (s : σ)
    (t : τ) : Progress σ ρ × τ :=
  let (reply, t) := call (m.ask s) t
  (m.receive s moment reply, t)

/-- At most `rounds` calls of a task, one after the other, when so many have been made before; the
clock tells the moment of each.  No result if that is not enough. -/
def runAt (m : Machine σ ρ) (call : Instant → (c : Call) → τ → Reply c.Answer × τ)
    (clock : Nat → Moment) : (rounds made : Nat) → Progress σ ρ → τ → Option ρ × τ
  | _, _, .finished r, t => (some r, t)
  | 0, _, .running _, t => (none, t)
  | rounds + 1, made, .running s, t =>
    let (status, t) := m.step (call (clock made).now) (clock made) s t
    runAt m call clock rounds (made + 1) status t

/-- At most `rounds` calls of a task at one moment. -/
def run (m : Machine σ ρ) (call : (c : Call) → τ → Reply c.Answer × τ) (moment : Moment)
    (rounds : Nat) (status : Progress σ ρ) (t : τ) : Option ρ × τ :=
  m.runAt (fun _ => call) (fun _ => moment) rounds 0 status t

end Machine

end Service

end ManifestRegistry
