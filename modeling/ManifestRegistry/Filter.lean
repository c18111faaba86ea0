/-
**Filters.**

A listing can be narrowed by name, version, identity, remote URL, latest flag, time of change and a
fragment of the name; all conditions given must hold.

Main definitions:

* `Filter` — the conditions;
* `Filter.selects` — **whether a record meets them**.
-/

import ManifestRegistry.Record.Basic

set_option relaxedAutoImplicit false
set_option autoImplicit false

namespace ManifestRegistry

/-- Conditions on records; those that are absent are met. -/
structure Filter where
  name : Option String := none
  version : Option String := none
  id : Option Uuid := none
  /-- A URL that some remote endpoint must have. -/
  remoteUrl : Option String := none
  isLatest : Option Bool := none
  /-- An instant that the last change must be strictly behind. -/
  updatedSince : Option Instant := none
  /-- A part of the name, whatever the case of ASCII letters. -/
  nameContains : Option String := none
deriving DecidableEq, Repr

namespace Filter

/-- Whether a condition is absent or holds. -/
def holds {α : Type} (condition : Option α) (test : α → Bool) : Bool :=
  match condition with
  | none => true
  | some a => test a

/-- Whether a text has another as a part, up to the case of ASCII letters. -/
def hasFragment (text fragment : String) : Bool :=
  Text.contains (fragment.toList.map Text.foldCase) (text.toList.map Text.foldCase)

/-- Whether a record meets all conditions. -/
def selects (f : Filter) (r : Record) : Bool :=
  holds f.name (r.name = ·) && holds f.version (r.version = ·) && holds f.id (r.id = ·) &&
    holds f.remoteUrl r.manifest.remoteUrls.contains && holds f.isLatest (r.isLatest = ·) &&
    holds f.updatedSince (fun since => since.before r.updatedAt) &&
    holds f.nameContains (hasFragment r.name)

@[simp] theorem selects_empty (r : Record) : ({} : Filter).selects r = true := rfl

end Filter

end ManifestRegistry
