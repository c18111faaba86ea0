/-
**What can go wrong in a store.**

Main definitions:

* `StorageError` — the causes;
* `StorageError.message` — their wording.
-/

import ManifestRegistry.Text.Duration

set_option relaxedAutoImplicit false
set_option autoImplicit false

namespace ManifestRegistry

/-- What can go wrong in a store. -/
inductive StorageError where
  | notFound (what : String)
  /-- A name has this version already. -/
  | alreadyExists (what : String)
  /-- A conditional write lost against another writer; trying again is safe. -/
  | conflict (reason : String)
  | invalidCursor (raw : String)
  /-- A call took longer than its deadline, in milliseconds. -/
  | timeout (ms : Nat)
  /-- The first of two writes was made and the second was not. -/
  | partialCommit (reason : String)
  | backend (reason : String)
deriving DecidableEq, Repr

namespace StorageError

/-- The wording of a cause. -/
def message : StorageError → String
  | .notFound what => "Record not found: " ++ what
  | .alreadyExists what => "Record already exists: " ++ what
  | .conflict reason => "Write conflict: " ++ reason
  | .invalidCursor raw => "Invalid cursor: " ++ raw
  | .timeout ms => "Storage operation timed out after " ++ Text.duration ms
  | .partialCommit reason => "Partial commit: " ++ reason
  | .backend reason => "Storage backend error: " ++ reason

end StorageError

end ManifestRegistry
