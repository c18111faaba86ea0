/-
**Stores that take their time.**

A call may have to wait.  Who asks may set a time that the waits of a call may add up to; a call that
needs more is cut off in the middle, and what it has written by then stays written.

Main definitions:

* `Storage.Allowance` — the time that a call may still wait;
* `Storage.Paced` — something done to a store within an allowance, unless it is cut off;
* `PacedStore` — **a store whose calls may wait**; one that never waits is a special case;
* `Storage.patiently` — a call without a limit;
* `Storage.within` — a call that is answered with a timeout if it is cut off;
* `Storage.twoWrites` — a commit made of two writes, one after the other.

Main results:

* `Storage.within_eq_call` — a deadline does not matter to a store that never waits.
-/

import ManifestRegistry.Storage.Call

set_option relaxedAutoImplicit false
set_option autoImplicit false

namespace ManifestRegistry

namespace Storage

/-- The milliseconds that a call may still wait; there may be no limit. -/
abbrev Allowance := Option Nat

/-- The allowance after a wait; nothing if it was too short. -/
def Allowance.spend (ms : Nat) : Allowance → Option Allowance
  | none => some none
  | some left => if ms ≤ left then some (some (left - ms)) else none

/-- Something done to a store `σ` within an allowance.  It may be cut off; the store keeps what was
done to it by then. -/
abbrev Paced (σ α : Type) := StateT Allowance (OptionT (StateM σ)) α

/-- What is done to a store with an allowance: the result and the allowance left, and the store. -/
def Paced.run {σ α : Type} (p : Paced σ α) (left : Allowance) (s : σ) :
    Option (α × Allowance) × σ :=
  p left s

/-- Something done to a store that takes no time. -/
def Paced.atOnce {σ α : Type} (f : σ → α × σ) : Paced σ α := fun left s =>
  let (a, s) := f s
  (some (a, left), s)

/-- A wait. -/
def Paced.wait {σ : Type} (ms : Nat) : Paced σ Unit := fun left s =>
  ((left.spend ms).map fun left => ((), left), s)

/-- Something done to a part of a store. -/
def Paced.inside {σ τ α : Type} (get : σ → τ) (set : σ → τ → σ) (p : Paced τ α) : Paced σ α :=
  fun left s =>
    let (result, t) := p left (get s)
    (result, set s t)

end Storage

open Storage in
/-- A store whose calls may wait. -/
class PacedStore (σ : Type) where
  /-- A call at some time. -/
  perform : (c : Call) → Instant → Paced σ (Reply c.Answer)
  /-- At least as many records as there can be before the store is asked to write again. -/
  size : σ → Nat

namespace Storage

variable {σ : Type}

/-- A store that never waits. -/
instance (priority := low) pacedOfStore [Store σ] : PacedStore σ where
  perform c now := Paced.atOnce (Store.call c now)
  size := Store.size

/-- A call without a limit. -/
def patiently [PacedStore σ] (c : Call) (now : Instant) (s : σ) : Reply c.Answer × σ :=
  match (PacedStore.perform c now).run none s with
  | (some (reply, _), s) => (reply, s)
  | (none, s) => (.error .crashed, s)

/-- A call that is answered with a timeout if its waits add up to more than `ms` milliseconds. -/
def within [PacedStore σ] (ms : Nat) (c : Call) (now : Instant) (s : σ) : Reply c.Answer × σ :=
  match (PacedStore.perform c now).run (some ms) s with
  | (some (reply, _), s) => (reply, s)
  | (none, s) => (refuse (.timeout ms), s)

/-- A deadline does not matter to a store that never waits. -/
theorem within_eq_call [Store σ] (ms : Nat) (c : Call) (now : Instant) (s : σ) :
    within ms c now s = Store.call c now s := rfl

/-! ### Two writes instead of one -/

/-- The reason to report that a version was stored but the previous latest one was not demoted. -/
def halfCommitted (record previous : Record) (cause : StorageError) : StorageError :=
  .partialCommit ("created " ++ record.name ++ " " ++ record.version ++ " but failed to demote " ++
    previous.version ++ ": " ++ cause.message)

/-- A commit as two writes, one after the other: the new version is added, then the previous latest
one is put in place of the stored one. -/
def twoWrites {m : Type → Type} [Monad m] (create : Record → m (Reply Record))
    (update : Uuid → Record → m (Reply Record)) (record : Record) (previous : Option Record) :
    m (Reply Record) := do
  match ← create record, previous with
  | .ok created, some p =>
    match ← update p.id p with
    | .ok _ => return .ok created
    | .error (.failed e) => return refuse (halfCommitted record p e)
    | .error .crashed => return .error .crashed
  | reply, _ => return reply

end Storage

end ManifestRegistry
