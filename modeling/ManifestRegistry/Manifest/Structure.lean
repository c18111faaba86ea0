/-
**The form of a manifest.**

Before anything else a manifest must have a name within a namespace, a version and a repository.

Main definitions:

* `Manifest.structureFlaw?` — **what is wrong with the form**, if anything is.
-/

import ManifestRegistry.Manifest.Basic
import ManifestRegistry.Text.Blank

set_option relaxedAutoImplicit false
set_option autoImplicit false

namespace ManifestRegistry

namespace Manifest

/-- Whether the manifest says where its source is. -/
def hasRepository (m : Manifest) : Bool :=
  match m.repository with
  | some r => !Text.isAllBlank r.url
  | none => false

/-- What is wrong with the form of a manifest; the first flaw counts. -/
def structureFlaw? (m : Manifest) : Option String :=
  if Text.isAllBlank m.name then some "server name is required"
  else if m.namespaceParts?.isNone then
    some ("server name '" ++ m.name ++ "' must be in the form 'namespace/name'")
  else if Text.isAllBlank m.version then some "server version is required"
  else if m.hasRepository then none
  else some "repository url is required"

end Manifest

end ManifestRegistry
