/-
**Why the registry refuses or fails.**

Every failure has a stable code for machines, a wording for people, and a side that caused it: the
caller, or the store behind the registry.

Main definitions:

* `Failure` — the causes;
* `Failure.code`, `Failure.message` — code and wording;
* `Failure.isClient`, `Failure.isStorage` — who caused it;
* `Failure.ofStorage` — **what a store's error means to a caller**.
-/

import ManifestRegistry.Storage.Error

set_option relaxedAutoImplicit false
set_option autoImplicit false

namespace ManifestRegistry

/-- Why the registry refuses or fails. -/
inductive Failure where
  | notFound (what : String)
  | alreadyExists (what : String)
  | invalidInput (reason : String)
  /-- The version is already published under this name. -/
  | invalidVersion (reason : String)
  | maxVersionsReached (name : String) (max : Nat)
  | rateLimitExceeded (subject : String) (count : Nat) (limit : Nat)
  | publishingDisabled
  | validationFailed (reason : String)
  /-- Another server has this remote URL. -/
  | duplicateRemoteUrl (url : String) (owner : String)
  | storageTimeout (ms : Nat)
  | partialCommit (reason : String)
  | storage (e : StorageError)
deriving DecidableEq, Repr

namespace Failure

/-- The stable code of a failure. -/
def code : Failure → String
  | .notFound _ => "not_found"
  | .alreadyExists _ => "already_exists"
  | .invalidInput _ => "invalid_input"
  | .invalidVersion _ => "invalid_version"
  | .maxVersionsReached .. => "max_versions_reached"
  | .rateLimitExceeded .. => "rate_limit_exceeded"
  | .publishingDisabled => "publishing_disabled"
  | .validationFailed _ => "validation_failed"
  | .duplicateRemoteUrl .. => "duplicate_remote_url"
  | .storageTimeout _ => "storage_timeout"
  | .partialCommit _ => "partial_commit"
  | .storage _ => "storage_error"

/-- The wording of a failure. -/
def message : Failure → String
  | .notFound what => "Not found: " ++ what
  | .alreadyExists what => "Already exists: " ++ what
  | .invalidInput reason => "Invalid input: " ++ reason
  | .invalidVersion reason => "Invalid version: " ++ reason
  | .maxVersionsReached name max =>
    "Server '" ++ name ++ "' has reached the maximum of " ++ toString max ++ " versions"
  | .rateLimitExceeded subject count limit =>
    "Rate limit exceeded: '" ++ subject ++ "' published " ++ toString count ++
      " servers in the last 24 hours (limit " ++ toString limit ++ ")"
  | .publishingDisabled => "Publishing is disabled"
  | .validationFailed reason => "Validation failed: " ++ reason
  | .duplicateRemoteUrl url owner =>
    "Remote URL '" ++ url ++ "' is already used by server '" ++ owner ++ "'"
  | .storageTimeout ms => "Storage operation timed out after " ++ Text.duration ms
  | .partialCommit reason => "Partial commit: " ++ reason
  | .storage e => "Storage error: " ++ e.message

/-- Whether the store behind the registry caused the failure. -/
def isStorage : Failure → Bool
  | .storageTimeout _ | .partialCommit _ | .storage _ => true
  | _ => false

/-- Whether the caller caused the failure. -/
def isClient (f : Failure) : Bool := !f.isStorage

/-- What a store's error means to a caller. -/
def ofStorage : StorageError → Failure
  | .notFound what => .notFound what
  | .alreadyExists what => .alreadyExists what
  | .invalidCursor raw => .invalidInput ("invalid cursor: " ++ raw)
  | .timeout ms => .storageTimeout ms
  | .partialCommit reason => .partialCommit reason
  | .conflict reason => .storage (.conflict reason)
  | .backend reason => .storage (.backend reason)

end Failure

end ManifestRegistry
