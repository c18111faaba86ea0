/-
**Manifests as JSON.**

Fields are written in their order.  An absent optional field and an empty list of inputs are left
out, and everything that has a default may be left out when reading.

Main definitions:

* `Manifest.entries`, `Manifest.json` — the document of a manifest;
* `Manifest.layout`, `Manifest.shape` — **reading it**;
* the same for each part of a manifest.
-/

import ManifestRegistry.Manifest.Basic
import ManifestRegistry.Shape.Layout

set_option relaxedAutoImplicit false
set_option autoImplicit false

namespace ManifestRegistry

open Shape

/-- An entry that is left out if there is no value. -/
def optionalEntry {α : Type} (key : String) (f : α → Json) : Option α → List (String × Json)
  | none => []
  | some a => [(key, f a)]

/-- An entry that is left out if its list is empty. -/
def listEntry {α : Type} (key : String) (f : α → Json) (items : List α) : List (String × Json) :=
  if items.isEmpty then [] else [(key, .array (items.map f))]

namespace Transport

/-- The names of the transports. -/
def names : List (String × Transport) :=
  [("stdio", stdio), ("streamable-http", streamableHttp), ("sse", sse)]

/-- The name of a transport. -/
def name : Transport → String
  | stdio => "stdio"
  | streamableHttp => "streamable-http"
  | sse => "sse"

/-- The document of a transport. -/
def json (t : Transport) : Json := .text t.name

/-- The shape of a transport. -/
def shape : Shape Transport := variant names

theorem lookup_name (t : Transport) : names.lookup t.name = some t := by
  cases t <;> decide

end Transport

namespace Status

/-- The names of the states. -/
def names : List (String × Status) :=
  [("active", active), ("deprecated", deprecated), ("deleted", deleted)]

/-- The name of a state. -/
def name : Status → String
  | active => "active"
  | deprecated => "deprecated"
  | deleted => "deleted"

/-- The document of a state. -/
def json (s : Status) : Json := .text s.name

/-- The shape of a state. -/
def shape : Shape Status := variant names

theorem lookup_name (s : Status) : names.lookup s.name = some s := by
  cases s <;> decide

end Status

namespace Manifest

/-! ### Repositories -/

namespace Repository

/-- The document of a repository. -/
def json (r : Repository) : Json :=
  .object <| [("url", .text r.url), ("source", .text r.source)] ++
    optionalEntry "id" .text r.id ++ optionalEntry "subfolder" .text r.subfolder

/-- A repository in the making. -/
structure Draft where
  url : Option String := none
  source : Option String := none
  id : Option (Option String) := none
  subfolder : Option (Option String) := none

/-- The fields of a repository. -/
def layout : Layout Draft Repository where
  title := "struct Repository"
  fields :=
    [.of "url" string Draft.url (fun d a => { d with url := some a }) false,
      .of "source" string Draft.source (fun d a => { d with source := some a }) false,
      .of "id" (optional string) Draft.id (fun d a => { d with id := some a }) true,
      .of "subfolder" (optional string) Draft.subfolder
        (fun d a => { d with subfolder := some a }) true]
  start := {}
  finish d := do
    let url ← need "url" d.url
    let source ← need "source" d.source
    .ok { url, source, id := d.id.join, subfolder := d.subfolder.join }

/-- The shape of a repository. -/
def shape : Shape Repository := layout.shape

end Repository

/-! ### Inputs -/

namespace Input

/-- The document of an input. -/
def json (i : Input) : Json :=
  .object <| [("name", .text i.name)] ++ optionalEntry "description" .text i.description ++
    optionalEntry "value" .text i.value ++
    [("is_required", .bool i.isRequired), ("is_secret", .bool i.isSecret)]

/-- An input in the making. -/
structure Draft where
  name : Option String := none
  description : Option (Option String) := none
  value : Option (Option String) := none
  isRequired : Option Bool := none
  isSecret : Option Bool := none

/-- The fields of an input. -/
def layout : Layout Draft Input where
  title := "struct KeyValueInput"
  fields :=
    [.of "name" string Draft.name (fun d a => { d with name := some a }) false,
      .of "description" (optional string) Draft.description
        (fun d a => { d with description := some a }) true,
      .of "value" (optional string) Draft.value (fun d a => { d with value := some a }) true,
      .of "is_required" bool Draft.isRequired (fun d a => { d with isRequired := some a }) true,
      .of "is_secret" bool Draft.isSecret (fun d a => { d with isSecret := some a }) true]
  start := {}
  finish d := do
    let name ← need "name" d.name
    .ok {
      name
      description := d.description.join
      value := d.value.join
      isRequired := d.isRequired.getD false
      isSecret := d.isSecret.getD false }

/-- The shape of an input. -/
def shape : Shape Input := layout.shape

end Input

/-! ### Transports of packages -/

namespace PackageTransport

/-- The document of a package's transport. -/
def json (t : PackageTransport) : Json :=
  .object <| [("type", t.kind.json)] ++ optionalEntry "url" .text t.url

/-- A package's transport in the making. -/
structure Draft where
  kind : Option Transport := none
  url : Option (Option String) := none

/-- The fields of a package's transport. -/
def layout : Layout Draft PackageTransport where
  title := "struct PackageTransport"
  fields :=
    [.of "type" Transport.shape Draft.kind (fun d a => { d with kind := some a }) false,
      .of "url" (optional string) Draft.url (fun d a => { d with url := some a }) true]
  start := {}
  finish d := do
    let kind ← need "type" d.kind
    .ok { kind, url := d.url.join }

/-- The shape of a package's transport. -/
def shape : Shape PackageTransport := layout.shape

end PackageTransport

/-! ### Packages -/

namespace Package

/-- The document of a package. -/
def json (p : Package) : Json :=
  .object <| [("registry_type", .text p.registryType)] ++
    optionalEntry "registry_base_url" .text p.registryBaseUrl ++
    [("identifier", .text p.identifier)] ++ optionalEntry "version" .text p.version ++
    optionalEntry "file_sha256" .text p.fileSha256 ++
    optionalEntry "runtime_hint" .text p.runtimeHint ++
    [("transport", p.transport.json)] ++
    listEntry "environment_variables" Input.json p.environmentVariables

/-- A package in the making. -/
structure Draft where
  registryType : Option String := none
  registryBaseUrl : Option (Option String) := none
  identifier : Option String := none
  version : Option (Option String) := none
  fileSha256 : Option (Option String) := none
  runtimeHint : Option (Option String) := none
  transport : Option PackageTransport := none
  environmentVariables : Option (List Input) := none

/-- The fields of a package. -/
def layout : Layout Draft Package where
  title := "struct Package"
  fields :=
    [.of "registry_type" string Draft.registryType
        (fun d a => { d with registryType := some a }) false,
      .of "registry_base_url" (optional string) Draft.registryBaseUrl
        (fun d a => { d with registryBaseUrl := some a }) true,
      .of "identifier" string Draft.identifier
        (fun d a => { d with identifier := some a }) false,
      .of "version" (optional string) Draft.version
        (fun d a => { d with version := some a }) true,
      .of "file_sha256" (optional string) Draft.fileSha256
        (fun d a => { d with fileSha256 := some a }) true,
      .of "runtime_hint" (optional string) Draft.runtimeHint
        (fun d a => { d with runtimeHint := some a }) true,
      .of "transport" PackageTransport.shape Draft.transport
        (fun d a => { d with transport := some a }) true,
      .of "environment_variables" (list Input.shape) Draft.environmentVariables
        (fun d a => { d with environmentVariables := some a }) true]
  start := {}
  finish d := do
    let registryType ← need "registry_type" d.registryType
    let identifier ← need "identifier" d.identifier
    .ok {
      registryType
      registryBaseUrl := d.registryBaseUrl.join
      identifier
      version := d.version.join
      fileSha256 := d.fileSha256.join
      runtimeHint := d.runtimeHint.join
      transport := d.transport.getD {}
      environmentVariables := d.environmentVariables.getD [] }

/-- The shape of a package. -/
def shape : Shape Package := layout.shape

end Package

/-! ### Remote endpoints -/

namespace Remote

/-- The document of a remote endpoint. -/
def json (r : Remote) : Json :=
  .object <| [("type", r.kind.json), ("url", .text r.url)] ++
    listEntry "headers" Input.json r.headers

/-- A remote endpoint in the making. -/
structure Draft where
  kind : Option Transport := none
  url : Option String := none
  headers : Option (List Input) := none

/-- The fields of a remote endpoint. -/
def layout : Layout Draft Remote where
  title := "struct Remote"
  fields :=
    [.of "type" Transport.shape Draft.kind (fun d a => { d with kind := some a }) false,
      .of "url" string Draft.url (fun d a => { d with url := some a }) false,
      .of "headers" (list Input.shape) Draft.headers
        (fun d a => { d with headers := some a }) true]
  start := {}
  finish d := do
    let kind ← need "type" d.kind
    let url ← need "url" d.url
    .ok { kind, url, headers := d.headers.getD [] }

/-- The shape of a remote endpoint. -/
def shape : Shape Remote := layout.shape

end Remote

/-! ### Manifests -/

/-- The entries of a manifest's document. -/
def entries (m : Manifest) : List (String × Json) :=
  [("name", .text m.name), ("description", .text m.description), ("status", m.status.json)] ++
    optionalEntry "repository" Repository.json m.repository ++
    [("version", .text m.version)] ++ optionalEntry "website_url" .text m.websiteUrl ++
    [("packages", .array (m.packages.map Package.json)),
      ("remotes", .array (m.remotes.map Remote.json))]

/-- The document of a manifest. -/
def json (m : Manifest) : Json := .object m.entries

/-- A manifest in the making. -/
structure Draft where
  name : Option String := none
  description : Option String := none
  status : Option Status := none
  repository : Option (Option Repository) := none
  version : Option String := none
  websiteUrl : Option (Option String) := none
  packages : Option (List Package) := none
  remotes : Option (List Remote) := none

/-- The fields of a manifest. -/
def layout : Layout Draft Manifest where
  title := "struct ServerJson"
  fields :=
    [.of "name" string Draft.name (fun d a => { d with name := some a }) false,
      .of "description" string Draft.description
        (fun d a => { d with description := some a }) true,
      .of "status" Status.shape Draft.status (fun d a => { d with status := some a }) true,
      .of "repository" (optional Repository.shape) Draft.repository
        (fun d a => { d with repository := some a }) true,
      .of "version" string Draft.version (fun d a => { d with version := some a }) false,
      .of "website_url" (optional string) Draft.websiteUrl
        (fun d a => { d with websiteUrl := some a }) true,
      .of "packages" (list Package.shape) Draft.packages
        (fun d a => { d with packages := some a }) true,
      .of "remotes" (list Remote.shape) Draft.remotes
        (fun d a => { d with remotes := some a }) true]
  start := {}
  finish d := do
    let name ← need "name" d.name
    let version ← need "version" d.version
    .ok {
      name
      description := d.description.getD ""
      status := d.status.getD .active
      repository := d.repository.join
      version
      websiteUrl := d.websiteUrl.join
      packages := d.packages.getD []
      remotes := d.remotes.getD [] }

/-- The shape of a manifest. -/
def shape : Shape Manifest := layout.shape

end Manifest

end ManifestRegistry
