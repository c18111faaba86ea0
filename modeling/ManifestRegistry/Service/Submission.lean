/-
**What is submitted to the registry.**

A manifest and a bag of entries to keep with it are checked before any store is asked: the form, the
size of the bag, and whatever the validator objects to, in this order.

Main definitions:

* `Service.Submission` — a manifest and a bag;
* `Service.Submission.bagBytes` — the size of the bag;
* `Service.Submission.flaw?` — **why a submission is refused**, if it is;
* `Service.Change` — what comes of a submission.
-/

import ManifestRegistry.Config.Basic
import ManifestRegistry.Event
import ManifestRegistry.Json.Printer
import ManifestRegistry.Manifest.Structure
import ManifestRegistry.Manifest.Validation
import ManifestRegistry.Service.Task

set_option relaxedAutoImplicit false
set_option autoImplicit false

namespace ManifestRegistry

namespace Service

/-- A manifest and a bag of entries to keep with it. -/
structure Submission where
  manifest : Manifest
  bag : Bag := []

namespace Submission

/-- The bytes of the bag's compact text. -/
def bagBytes (s : Submission) : Nat := (Json.object s.bag).compress.utf8ByteSize

/-- Why the bag is refused, if it is. -/
def bagFlaw? (config : Config) (s : Submission) : Option Failure :=
  if config.maxBagBytes < s.bagBytes then
    some (.invalidInput ("publisher extensions are " ++ toString s.bagBytes ++
      " bytes, limit is " ++ toString config.maxBagBytes))
  else none

/-- Why a submission is refused, if it is. -/
def flaw? (config : Config) (validator : Manifest.Validator) (s : Submission) : Option Failure :=
  s.manifest.structureFlaw?.map Failure.invalidInput <|> s.bagFlaw? config <|>
    (validator s.manifest).map Failure.validationFailed

end Submission

/-- A stored record and what listeners are told, or the reason why nothing came of it. -/
abbrev Change := Outcome (Record × List Event)

end Service

end ManifestRegistry
