/-
**How much a subject may publish.**

A subject may publish only so often within 24 hours.  A negative quota lifts the limit, and a quota
of zero disables publishing; admins are not held to either.

Main definitions:

* `Service.Quota` — a quota and who asks;
* `Service.Quota.Decision` — the decision; `Service.Quota.Decision.verdict` — a refusal's reason;
* `Service.Quota.start`, `Service.Quota.machine` — **deciding**.
-/

import ManifestRegistry.Service.Task

set_option relaxedAutoImplicit false
set_option autoImplicit false

namespace ManifestRegistry

namespace Service

open Storage

/-- A quota and who asks. -/
structure Quota where
  daily : Int
  publisher : Publisher

namespace Quota

/-- Whether someone may publish. -/
inductive Decision where
  | unlimited
  | allowed (used limit : Nat)
  | exceeded (used limit : Nat)
  | disabled
deriving DecidableEq, Repr

namespace Decision

/-- Whether publishing is allowed. -/
def isAllowed : Decision → Bool
  | unlimited | allowed .. => true
  | exceeded .. | disabled => false

/-- The reason of a refusal. -/
def verdict (subject : String) : Decision → Except Failure Unit
  | unlimited | allowed .. => .ok ()
  | disabled => .error .publishingDisabled
  | exceeded used limit => .error (.rateLimitExceeded subject used limit)

end Decision

/-- The hours in which publishes count. -/
def windowHours : Nat := 24

/-- The decision for a number of publishes. -/
def ofCount (daily : Int) (used : Nat) : Decision :=
  if used < daily.toNat then .allowed used daily.toNat else .exceeded used daily.toNat

/-- The decision, unless publishes have to be counted first. -/
def start (q : Quota) : Progress Quota (Outcome Decision) :=
  if q.publisher.isAdmin || q.daily < 0 then .finished (.ok .unlimited)
  else if q.daily = 0 then .finished (.ok .disabled)
  else .running q

/-- The count that is due. -/
def ask (q : Quota) : Call := .countRecent q.publisher.subject windowHours

/-- The decision after the count. -/
def receive (q : Quota) (_ : Moment) (reply : Reply Nat) : Progress Quota (Outcome Decision) :=
  .finished ((ofReply reply).map (ofCount q.daily))

/-- Deciding whether someone may publish. -/
def machine : Machine Quota (Outcome Decision) := ⟨ask, receive⟩

end Quota

end Service

end ManifestRegistry
