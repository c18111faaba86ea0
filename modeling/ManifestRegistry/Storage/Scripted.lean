/-
**A store with scripted interference.**

Around another store, calls are noted down, and a script says what happens right before some of
them: a wait, a write by someone else, an error instead of the call.  So races and failures can be
played through one by one.

Main definitions:

* `Storage.Scripted.Action`, `Storage.Scripted.Cue` — what happens, and before which call;
* `Storage.Scripted` — a store, its script and the calls so far;
* the instance of `PacedStore`.
-/

import ManifestRegistry.Storage.Pace

set_option relaxedAutoImplicit false
set_option autoImplicit false

namespace ManifestRegistry

namespace Storage

namespace Scripted

/-- Something that happens before a call. -/
inductive Action where
  | wait (ms : Nat)
  /-- Someone else adds a record; what comes of it does not matter. -/
  | create (record : Record)
  /-- Someone else puts a record in place of another; what comes of it does not matter. -/
  | update (record : Record)
  /-- The call is not made and answered with an error. -/
  | fail (e : StorageError)

/-- What happens before the call of some kind with some number, counted from one. -/
structure Cue where
  method : Method
  number : Nat
  actions : List Action

end Scripted

/-- A store with a script. -/
structure Scripted (σ : Type) where
  inner : σ
  script : List Scripted.Cue := []
  /-- The calls so far. -/
  calls : List Method := []

namespace Scripted

variable {σ : Type}

/-- What the script says about the call of a kind that comes next. -/
def due (s : Scripted σ) (method : Method) : List Action :=
  let number := s.calls.count method + 1
  (s.script.filter fun cue => cue.method = method && cue.number = number).flatMap Cue.actions

/-- Something done to the inner store. -/
def lift {α : Type} (p : Paced σ α) : Paced (Scripted σ) α :=
  p.inside Scripted.inner fun s inner => { s with inner }

/-- The actions before a call, and the call unless one of them is an error. -/
def play [PacedStore σ] (c : Call) (now : Instant) : List Action → Paced σ (Reply c.Answer)
  | [] => PacedStore.perform c now
  | .wait ms :: rest => do
    Paced.wait ms
    play c now rest
  | .create record :: rest => do
    let _ ← PacedStore.perform (.create record) now
    play c now rest
  | .update record :: rest => do
    let _ ← PacedStore.perform (.update record.id record) now
    play c now rest
  | .fail e :: _ => return refuse e

/-- Whether an action may add a record. -/
def Action.adds : Action → Bool
  | .create _ => true
  | _ => false

instance [PacedStore σ] : PacedStore (Scripted σ) where
  perform c now := do
    let s ← getThe (Scripted σ)
    set { s with calls := s.calls ++ [c.method] }
    lift (play c now (s.due c.method))
  size s := PacedStore.size s.inner + (s.script.flatMap Cue.actions).countP Action.adds

end Scripted

end Storage

end ManifestRegistry
