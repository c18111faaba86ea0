/-
**Whose remote URL it is.**

Servers of different names never share a remote URL.  For each URL of a manifest the records that
have it are read page by page until one of another name is met.

Main definitions:

* `Service.Ownership` — a check under way;
* `Service.Ownership.start?`, `Service.Ownership.machine` — **checking the URLs of a manifest**.
-/

import ManifestRegistry.Service.Task

set_option relaxedAutoImplicit false
set_option autoImplicit false

namespace ManifestRegistry

namespace Service

open Storage

/-- A check of URLs under way. -/
structure Ownership where
  /-- The name that may have the URLs. -/
  name : String
  url : String
  /-- The URLs to be checked after this one. -/
  later : List String
  cursor : Option String := none

namespace Ownership

/-- The records of a page. -/
def pageSize : Nat := 50

/-- The check of some URLs. -/
def checkAll (name : String) : List String → Progress Ownership (Outcome Unit)
  | [] => .finished (.ok ())
  | url :: later => .running { name, url, later }

/-- The check of the URLs of a manifest. -/
def start (m : Manifest) : Progress Ownership (Outcome Unit) := checkAll m.name m.remoteUrls

/-- The page that is due. -/
def ask (o : Ownership) : Call := .list { remoteUrl := some o.url } o.cursor pageSize

/-- The check after a page. -/
def receive (o : Ownership) (_ : Moment) (reply : Reply (Page Record)) :
    Progress Ownership (Outcome Unit) :=
  match ofReply reply with
  | .error e => .finished (.error e)
  | .ok page =>
    match page.items.find? fun r => r.name ≠ o.name with
    | some other => .finished (failed (.duplicateRemoteUrl o.url other.name))
    | none =>
      match page.nextCursor with
      | some cursor => .running { o with cursor := some cursor }
      | none => checkAll o.name o.later

/-- Checking the URLs of a manifest. -/
def machine : Machine Ownership (Outcome Unit) := ⟨ask, receive⟩

/-- As many calls as checking a manifest against a store of some size can take. -/
def rounds (m : Manifest) (size : Nat) : Nat := m.remoteUrls.length * (size + 1)

end Ownership

end Service

end ManifestRegistry
