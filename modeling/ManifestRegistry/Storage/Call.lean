/-
**What a store can be asked.**

Everything the registry needs from a store goes through eight calls.  A store is anything that
answers them; what it keeps between calls is its own affair.  Some calls depend on the time.

Main definitions:

* `Stop` — why something ended without an answer;
* `Storage.Call`, `Storage.Call.Answer` — the calls and what they are answered with;
* `Storage.Reply` — an answer or the reason why there is none;
* `Store` — **what answers calls**.
-/

import ManifestRegistry.Failure
import ManifestRegistry.Filter
import ManifestRegistry.Page

set_option relaxedAutoImplicit false
set_option autoImplicit false

namespace ManifestRegistry

/-- Why something ended without an answer. -/
inductive Stop (ε : Type) where
  | failed (e : ε)
  /-- A point in time that no clock can show was needed. -/
  | crashed
deriving DecidableEq, Repr

/-- The same for another kind of errors. -/
def Stop.map {ε ε' : Type} (f : ε → ε') : Stop ε → Stop ε'
  | .failed e => .failed (f e)
  | .crashed => .crashed

namespace Storage

/-- What a store can be asked. -/
inductive Call where
  /-- A page of at most `limit` records that a filter selects, behind a cursor. -/
  | list (filter : Filter) (cursor : Option String) (limit : Nat)
  /-- The latest version of a server. -/
  | getById (id : Uuid)
  | getVersion (id : Uuid) (version : String)
  | create (record : Record)
  /-- The record put in place of the stored one with this identity and the record's version. -/
  | update (id : Uuid) (record : Record)
  /-- How often a subject has published in the last hours. -/
  | countRecent (subject : String) (hours : Nat)
  /-- A new version stored and, if there is a previous latest one, that one replaced, both or
  neither. -/
  | commit (record : Record) (demote : Option Record)
  | close

/-- The kinds of calls. -/
inductive Method where
  | list
  | getById
  | getVersion
  | create
  | update
  | countRecent
  | commit
  | close
deriving DecidableEq, Repr

namespace Call

/-- The kind of a call. -/
def method : Call → Method
  | list .. => .list
  | getById .. => .getById
  | getVersion .. => .getVersion
  | create .. => .create
  | update .. => .update
  | countRecent .. => .countRecent
  | commit .. => .commit
  | close => .close

/-- What a call is answered with. -/
abbrev Answer : Call → Type
  | list .. => Page Record
  | getById .. | getVersion .. => Option Record
  | create .. | update .. | commit .. => Record
  | countRecent .. => Nat
  | close => Unit

end Call

/-- An answer, or the reason why there is none. -/
abbrev Reply (α : Type) := Except (Stop StorageError) α

/-- No answer because of an error. -/
def refuse {α : Type} (e : StorageError) : Reply α := .error (.failed e)

/-- No answer because the store is closed. -/
def refuseClosed {α : Type} : Reply α := refuse (.backend "server repository is closed")

/-! ### Reasons to refuse a write -/

/-- There is no such version of a server. -/
def noVersion (id : Uuid) (version : String) : StorageError :=
  .notFound ("server " ++ id.text ++ " version " ++ version)

/-- The name of a new version belongs to another identity. -/
def ownedBy (record : Record) (owner : Uuid) : StorageError :=
  .conflict (record.name ++ " is owned by identity " ++ owner.text)

/-- A demotion comes too late. -/
def notLatest (previous : Record) : StorageError :=
  .conflict (previous.name ++ " " ++ previous.version ++ " is no longer the latest version")

end Storage

open Storage in
/-- What answers calls. -/
class Store (σ : Type) where
  /-- The answer to a call at some time, and what is kept afterwards. -/
  call : (c : Call) → Instant → σ → Reply c.Answer × σ
  /-- How many records there are. -/
  size : σ → Nat

end ManifestRegistry
