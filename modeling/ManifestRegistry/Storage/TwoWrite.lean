/-
**A store without atomic commits.**

Here a commit is two writes, and nothing keeps a second record from being flagged as the latest one.
Demotions can be made to fail, which leaves commits half done.

Main definitions:

* `Storage.TwoWrite` — a list of records, whether demotions fail, and how often records were added;
* the instance of `Store`.
-/

import ManifestRegistry.Storage.Memory
import ManifestRegistry.Storage.Pace

set_option relaxedAutoImplicit false
set_option autoImplicit false

namespace ManifestRegistry

namespace Storage

/-- A list of records whose commits are two writes. -/
structure TwoWrite where
  inner : Memory := {}
  /-- Whether a record without the latest flag cannot be put in place of another. -/
  failDemotions : Bool := false
  /-- How often a record was to be added. -/
  creates : Nat := 0

namespace TwoWrite

/-- Something done to the list of records. -/
def lift {α : Type} (f : Memory → α × Memory) : StateM TwoWrite α := fun t =>
  let (a, inner) := f t.inner
  (a, { t with inner })

/-- A record added; a flagged one is first added without its flag, so that another flagged one does
not matter. -/
def create (record : Record) : StateM TwoWrite (Reply Record) := do
  modify fun t => { t with creates := t.creates + 1 }
  let plain : Record :=
    { record with registration := { record.registration with isLatest := false } }
  match ← lift (Memory.create · plain) with
  | .ok _ => if record.isLatest then lift (Memory.update · record.id record) else return .ok record
  | .error e => return .error e

/-- A record put in place of the first one with an identity and its version. -/
def update (id : Uuid) (record : Record) : StateM TwoWrite (Reply Record) := do
  if !record.isLatest && (← get).failDemotions then
    return refuse (.backend "injected demotion failure")
  else lift (Memory.update · id record)

instance : Store TwoWrite where
  call c now :=
    match c with
    | .create record => create record
    | .update id record => update id record
    | .commit record previous => twoWrites create update record previous
    | .list filter cursor limit => lift (Store.call (.list filter cursor limit) now)
    | .getById id => lift (Store.call (.getById id) now)
    | .getVersion id version => lift (Store.call (.getVersion id version) now)
    | .countRecent subject hours => lift (Store.call (.countRecent subject hours) now)
    | .close => lift (Store.call .close now)
  size t := Store.size t.inner

end TwoWrite

end Storage

end ManifestRegistry
