/-
**Manifests.**

A manifest is what a publisher writes about one version of a server: its name within a namespace, a
version, where its source is, the packages that install it and the remote endpoints that host it.

Main definitions:

* `Manifest` and its parts `Repository`, `Input`, `PackageTransport`, `Package`, `Remote`;
* `Manifest.namespaceParts?` — namespace and server of a name;
* `Manifest.remoteUrls` — the URLs of the remote endpoints, in their order;
* `Transport.isRemote` — whether a transport goes over the network.
-/

import ManifestRegistry.Text.Split

set_option relaxedAutoImplicit false
set_option autoImplicit false

namespace ManifestRegistry

/-- How a client talks to a server. -/
inductive Transport where
  | stdio
  | streamableHttp
  | sse
deriving DecidableEq, Repr, Inhabited

/-- Whether a transport goes over the network. -/
def Transport.isRemote : Transport → Bool
  | .stdio => false
  | .streamableHttp | .sse => true

/-- What the publisher says about the state of a server. -/
inductive Status where
  | active
  | deprecated
  | deleted
deriving DecidableEq, Repr, Inhabited

namespace Manifest

/-- Where the source of a server is. -/
structure Repository where
  url : String
  /-- The service that hosts the repository. -/
  source : String
  id : Option String := none
  subfolder : Option String := none
deriving DecidableEq, Repr

/-- An environment variable or a header that a client has to fill in. -/
structure Input where
  name : String
  description : Option String := none
  value : Option String := none
  isRequired : Bool := false
  isSecret : Bool := false
deriving DecidableEq, Repr

/-- How to talk to an installed package. -/
structure PackageTransport where
  kind : Transport := .stdio
  url : Option String := none
deriving DecidableEq, Repr

/-- A package that installs the server. -/
structure Package where
  /-- The kind of package registry. -/
  registryType : String
  registryBaseUrl : Option String := none
  identifier : String
  version : Option String := none
  fileSha256 : Option String := none
  runtimeHint : Option String := none
  transport : PackageTransport := {}
  environmentVariables : List Input := []
deriving DecidableEq, Repr

/-- A hosted endpoint of the server. -/
structure Remote where
  kind : Transport
  url : String
  headers : List Input := []
deriving DecidableEq, Repr

end Manifest

/-- What a publisher writes about one version of a server. -/
structure Manifest where
  name : String
  description : String := ""
  status : Status := .active
  repository : Option Manifest.Repository := none
  version : String
  websiteUrl : Option String := none
  packages : List Manifest.Package := []
  remotes : List Manifest.Remote := []
deriving DecidableEq, Repr

namespace Manifest

/-- The URLs of the remote endpoints, in their order. -/
def remoteUrls (m : Manifest) : List String := m.remotes.map Remote.url

/-- Namespace and server of a name that has one slash with something on either side. -/
def namespaceParts? (m : Manifest) : Option (String × String) :=
  match Text.splitAll '/' m.name.toList with
  | [ns, server] =>
    if ns = [] ∨ server = [] then none else some (String.ofList ns, String.ofList server)
  | _ => none

end Manifest

end ManifestRegistry
