/-
**A store that waits before every call.**

Every call but closing waits first.  A commit is two writes and waits before each of them, so it may
be cut off when the new version is stored and the previous one not yet demoted.

Main definitions:

* `Storage.Slow` — a list of records and the wait before each call;
* the instance of `PacedStore`.
-/

import ManifestRegistry.Storage.Memory
import ManifestRegistry.Storage.Pace

set_option relaxedAutoImplicit false
set_option autoImplicit false

namespace ManifestRegistry

namespace Storage

/-- A list of records that waits before every call. -/
structure Slow where
  inner : Memory := {}
  /-- The wait before each call, in milliseconds. -/
  delay : Nat
deriving Inhabited

namespace Slow

/-- Something done to the list of records. -/
def lift {α : Type} (f : Memory → α × Memory) : Paced Slow α :=
  (Paced.atOnce f).inside Slow.inner fun t inner => { t with inner }

/-- Something done to the list of records after a wait. -/
def later {α : Type} (f : Memory → α × Memory) : Paced Slow α := do
  let t ← getThe Slow
  Paced.wait t.delay
  lift f

/-- A record added after a wait. -/
def create (record : Record) : Paced Slow (Reply Record) := later (Memory.create · record)

/-- A record put in place of another after a wait. -/
def update (id : Uuid) (record : Record) : Paced Slow (Reply Record) :=
  later (Memory.update · id record)

instance : PacedStore Slow where
  perform c now :=
    match c with
    | .create record => create record
    | .update id record => update id record
    | .commit record previous => twoWrites create update record previous
    | .list filter cursor limit => later (Store.call (.list filter cursor limit) now)
    | .getById id => later (Store.call (.getById id) now)
    | .getVersion id version => later (Store.call (.getVersion id version) now)
    | .countRecent subject hours => later (Store.call (.countRecent subject hours) now)
    | .close => lift (Store.call .close now)
  size t := Store.size t.inner

end Slow

end Storage

end ManifestRegistry
