/-
**The registry.**

A registry is a store with settings, a validator and a channel for its events.  Each of its
operations runs undisturbed, every call to the store under the deadline of the settings, and tells
listeners what has changed.

Main definitions:

* `Registry` — a store and what belongs to it;
* `Registry.publishAt`, `Registry.editAt` — **changes**, by a clock that may go on between their calls;
* `Registry.publish`, `Registry.edit` — changes while the clock stands still;
* `Registry.list`, `Registry.get`, `Registry.getVersion`, `Registry.versions` — reading;
* `Registry.close` — closing the store.
-/

import ManifestRegistry.Broadcast
import ManifestRegistry.Service.Edit
import ManifestRegistry.Service.Publish
import ManifestRegistry.Storage.Pace

set_option relaxedAutoImplicit false
set_option autoImplicit false

namespace ManifestRegistry

open Service Storage

/-- A store with settings, a validator and a channel for events. -/
structure Registry (σ : Type) where
  config : Config := {}
  validator : Manifest.Validator := Manifest.validationFlaw?
  store : σ
  events : Broadcast Event

namespace Registry

variable {σ : Type} [PacedStore σ]

/-- What a registry without a store is told. -/
def storeRequired : String := "Server repository required"

/-- A call to the store under the deadline. -/
def call (r : Registry σ) (now : Instant) (c : Call) (s : σ) : Reply c.Answer × σ :=
  within r.config.timeoutMs c now s

/-- A task run with at most so many calls, whose moments a clock tells. -/
def runTask {τ ρ : Type} (r : Registry σ) (m : Machine τ (Outcome ρ))
    (start : Progress τ (Outcome ρ)) (clock : Nat → Moment) (rounds : Nat) :
    Outcome ρ × Registry σ :=
  let (result, store) := m.runAt r.call clock rounds 0 start r.store
  (result.getD (.error .crashed), { r with store })

/-- The registry after its listeners were told what has changed. -/
def emit (r : Registry σ) (events : List Event) : Registry σ :=
  { r with events := events.foldl Broadcast.send r.events }

/-- A change and what listeners are told about it. -/
def change {τ : Type} (r : Registry σ) (m : Machine τ Change) (start : Progress τ Change)
    (clock : Nat → Moment) (rounds : Nat) : Outcome Record × Registry σ :=
  match r.runTask m start clock rounds with
  | (.ok (record, events), r) => (.ok record, r.emit events)
  | (.error stop, r) => (.error stop, r)

/-! ### Changes -/

/-- A new version. -/
def publishAt (r : Registry σ) (clock : Nat → Moment) (submission : Submission)
    (publisher : Publisher) : Outcome Record × Registry σ :=
  let p : Publish := ⟨r.config, r.validator, submission, publisher⟩
  r.change p.machine p.start clock (p.rounds (PacedStore.size r.store))

/-- Another manifest for a stored version. -/
def editAt (r : Registry σ) (clock : Nat → Moment) (id : Uuid) (submission : Submission)
    (editor : Publisher) : Outcome Record × Registry σ :=
  let e : Edit := ⟨r.config, r.validator, id, submission, editor⟩
  r.change e.machine e.start clock (e.rounds (PacedStore.size r.store))

/-- A new version while the clock stands still. -/
def publish (r : Registry σ) (moment : Moment) (submission : Submission)
    (publisher : Publisher) : Outcome Record × Registry σ :=
  r.publishAt (fun _ => moment) submission publisher

/-- Another manifest for a stored version while the clock stands still. -/
def edit (r : Registry σ) (moment : Moment) (id : Uuid) (submission : Submission)
    (editor : Publisher) : Outcome Record × Registry σ :=
  r.editAt (fun _ => moment) id submission editor

/-! ### Reading -/

/-- One call to the store. -/
def ask (r : Registry σ) (now : Instant) (c : Call) : Outcome c.Answer × Registry σ :=
  let (reply, store) := r.call now c r.store
  (ofReply reply, { r with store })

/-- A page of the selected records; a limit of zero asks for the usual size. -/
def list (r : Registry σ) (now : Instant) (filter : Filter) (cursor : Option String)
    (limit : Nat) : Outcome (Page Record) × Registry σ :=
  r.ask now (.list filter cursor (r.config.pageSize limit))

/-- A record that must be there. -/
def found (what : String) : Outcome (Option Record) → Outcome Record
  | .ok (some record) => .ok record
  | .ok none => failed (.notFound what)
  | .error stop => .error stop

/-- The latest version of a server. -/
def get (r : Registry σ) (now : Instant) (id : Uuid) : Outcome Record × Registry σ :=
  let (reply, r) := r.ask now (.getById id)
  (found ("server " ++ id.text) reply, r)

/-- A given version of a server. -/
def getVersion (r : Registry σ) (now : Instant) (id : Uuid) (version : String) :
    Outcome Record × Registry σ :=
  let (reply, r) := r.ask now (.getVersion id version)
  (found ("server " ++ id.text ++ " version " ++ version) reply, r)

/-- The records of a name, of which there must be some. -/
def named (name : String) : Outcome (List Record) → Outcome (List Record)
  | .ok [] => failed (.notFound ("server '" ++ name ++ "'"))
  | outcome => outcome

/-- All versions of a server in the order in which they came. -/
def versions (r : Registry σ) (moment : Moment) (name : String) :
    Outcome (List Record) × Registry σ :=
  let c := Publish.lookup r.config name
  let (reply, store) :=
    Collect.machine.run (r.call moment.now) moment (Collect.rounds (PacedStore.size r.store))
      (.running c) r.store
  (named name (ofReply (reply.getD (.error .crashed))), { r with store })

/-- All pages of the selected records. -/
def walk (r : Registry σ) (moment : Moment) (filter : Filter) (limit : Nat) :
    Outcome (List (List Record)) × Registry σ :=
  let w : Walk := { filter, limit := r.config.pageSize limit }
  let (reply, store) :=
    Walk.machine.run (r.call moment.now) moment (Collect.rounds (PacedStore.size r.store))
      (.running w) r.store
  (ofReply (reply.getD (.error .crashed)), { r with store })

/-- The store closed. -/
def close (r : Registry σ) (now : Instant) : Outcome Unit × Registry σ := r.ask now .close

end Registry

end ManifestRegistry
