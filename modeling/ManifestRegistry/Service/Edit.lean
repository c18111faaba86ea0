/-
**Editing a version.**

An edit puts another manifest in place of that of a stored version.  The name cannot change, the
version's place among all and its registration stay as they are, and an empty bag leaves the stored
one alone.

Main definitions:

* `Service.Edit` — who edits what, and under which settings;
* `Service.Edit.apply` — **the edited record**;
* `Service.Edit.start`, `Service.Edit.machine` — the edit as a task.
-/

import ManifestRegistry.Service.Ownership
import ManifestRegistry.Service.Submission

set_option relaxedAutoImplicit false
set_option autoImplicit false

namespace ManifestRegistry

namespace Service

open Storage

/-- Who edits what, and under which settings. -/
structure Edit where
  config : Config
  validator : Manifest.Validator
  id : Uuid
  submission : Submission
  editor : Publisher

namespace Edit

/-- The manifest to be put in place. -/
def manifest (e : Edit) : Manifest := e.submission.manifest

/-- The stored record with the manifest and, unless it is empty, the bag put in place. -/
def edited (e : Edit) (now : Instant) (existing : Record) : Record :=
  { existing with
    manifest := e.manifest
    registration := { existing.registration with updatedAt := now }
    bag := if e.submission.bag.isEmpty then existing.bag else e.submission.bag }

/-- The edited record, if the version is there and keeps its name. -/
def apply (e : Edit) (now : Instant) (existing : Option Record) : Except Failure Record :=
  match existing with
  | none =>
    .error (.notFound ("server " ++ e.id.text ++ " version " ++ e.manifest.version))
  | some r =>
    if r.name = e.manifest.name then .ok (e.edited now r)
    else
      .error (.invalidInput ("cannot rename '" ++ r.name ++ "' to '" ++ e.manifest.name ++
        "' by editing"))

/-- What listeners are told about an edited version. -/
def events (e : Edit) (saved : Record) : List Event :=
  [.edited e.id saved.name saved.version e.editor.subject]

/-! ### The task -/

/-- How far an edit is. -/
inductive Phase where
  | ownership (o : Ownership)
  | fetch
  | save (updated : Record)

/-- On to the stored version once the URLs are known to be free. -/
def afterOwnership : Outcome Unit → Progress Phase Change
  | .error stop => .finished (.error stop)
  | .ok () => .running .fetch

/-- On to the update once the stored version is read. -/
def afterFetch (e : Edit) (now : Instant) :
    Reply (Option Record) → Progress Phase Change
  | .error stop => .finished (.error (stop.map Failure.ofStorage))
  | .ok existing =>
    match e.apply now existing with
    | .error f => .finished (failed f)
    | .ok updated => .running (.save updated)

/-- After the update. -/
def afterSave (e : Edit) : Reply Record → Progress Phase Change
  | .error stop => .finished (.error (stop.map Failure.ofStorage))
  | .ok saved => .finished (.ok (saved, e.events saved))

/-- The call that is due. -/
def ask (e : Edit) (s : Phase) : Call :=
  match s with
  | .ownership o => o.ask
  | .fetch => .getVersion e.id e.manifest.version
  | .save updated => .update e.id updated

/-- Where an answer leads. -/
def receive (e : Edit) : (s : Phase) → Moment → Reply (e.ask s).Answer →
    Progress Phase Change
  | .ownership o, moment, reply =>
    (o.receive moment reply).andThen Phase.ownership afterOwnership
  | .fetch, moment, reply => e.afterFetch moment.now reply
  | .save _, _, reply => e.afterSave reply

/-- The beginning of an edit. -/
def start (e : Edit) : Progress Phase Change :=
  match e.submission.flaw? e.config e.validator with
  | some f => .finished (failed f)
  | none => (Ownership.start e.manifest).andThen Phase.ownership afterOwnership

/-- The edit as a task. -/
def machine (e : Edit) : Machine Phase Change := ⟨e.ask, e.receive⟩

/-- As many calls as an edit in a store of some size can take. -/
def rounds (e : Edit) (size : Nat) : Nat := Ownership.rounds e.manifest size + 2

end Edit

end Service

end ManifestRegistry
