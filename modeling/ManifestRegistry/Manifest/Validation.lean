/-
**What a manifest may say.**

Beyond its form a manifest is checked for what can be told without asking anyone: a specific
version, a short description, remote URLs that can be reached over the web, packages with an
identifier.  The first objection counts.

Main definitions:

* `Manifest.urlFlaw?` — why a remote URL cannot be accepted;
* `Manifest.Validator` — who checks manifests;
* `Manifest.validationFlaw?` — **the usual check**.
-/

import ManifestRegistry.Manifest.Basic
import ManifestRegistry.Text.Blank
import ManifestRegistry.Url.Basic
import ManifestRegistry.Version.Specific

set_option relaxedAutoImplicit false
set_option autoImplicit false

namespace ManifestRegistry

namespace Manifest

/-- How many characters a description may have. -/
def maxDescription : Nat := 100

/-- Schemes of URLs that can be reached over the web. -/
def webSchemes : List String := ["http", "https"]

/-- Why a remote URL cannot be accepted, if it cannot. -/
def urlFlaw? (raw : String) : Option String :=
  match Url.parse? raw with
  | .error flaw => some ("invalid remote URL '" ++ raw ++ "': " ++ flaw.message)
  | .ok url =>
    if !webSchemes.contains (String.ofList url.scheme) then
      some ("remote URL '" ++ raw ++ "' must use http or https")
    else if url.host.isNone then some ("remote URL '" ++ raw ++ "' has no host")
    else none

/-- Why a package cannot be accepted, if it cannot. -/
def packageFlaw? (p : Package) : Option String :=
  if Text.isAllBlank p.identifier then
    some ("package on '" ++ p.registryType ++ "' is missing an identifier")
  else none

/-- Why a description cannot be accepted, if it cannot. -/
def descriptionFlaw? (description : String) : Option String :=
  if maxDescription < description.length then
    some ("description exceeds " ++ toString maxDescription ++ " characters")
  else none

/-- Who checks manifests: the objection to a manifest, if there is one. -/
abbrev Validator := Manifest → Option String

/-- The usual check. -/
def validationFlaw? : Validator := fun m =>
  Version.flaw? m.version <|> descriptionFlaw? m.description <|>
    m.remotes.findSome? (fun r => urlFlaw? r.url) <|> m.packages.findSome? packageFlaw?

end Manifest

end ManifestRegistry
