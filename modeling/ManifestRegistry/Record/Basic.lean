/-
**Stored records.**

A record is one stored version of a server: the manifest, what the registry adds to it, whatever the
publisher wants to keep with it, and who published it.

Main definitions:

* `Registration` — what the registry adds to a manifest;
* `Record` — a stored version;
* `Record.demoted` — **the record without the latest flag**.
-/

import ManifestRegistry.Instant.Basic
import ManifestRegistry.Json.Basic
import ManifestRegistry.Manifest.Basic
import ManifestRegistry.Uuid

set_option relaxedAutoImplicit false
set_option autoImplicit false

namespace ManifestRegistry

/-- What the registry adds to a manifest. -/
structure Registration where
  /-- The identity of the logical server, common to all its versions. -/
  id : Uuid
  publishedAt : Instant
  updatedAt : Instant
  /-- Whether this is the latest version of its server. -/
  isLatest : Bool
  releaseDate : Option Instant := none
deriving DecidableEq, Repr

/-- The registration of a version published now. -/
def Registration.new (id : Uuid) (now : Instant) (isLatest : Bool) : Registration where
  id := id
  publishedAt := now
  updatedAt := now
  isLatest := isLatest
  releaseDate := some now

/-- The entries that a publisher wants to keep with a version. -/
abbrev Bag := List (String × Json)

/-- One stored version of a server. -/
structure Record where
  manifest : Manifest
  registration : Registration
  bag : Bag := []
  /-- The subject that published the version; kept beside the document, not in it. -/
  publishedBy : Option String := none
deriving Repr

namespace Record

/-- The name of the server. -/
def name (r : Record) : String := r.manifest.name

/-- The version. -/
def version (r : Record) : String := r.manifest.version

/-- The identity of the server. -/
def id (r : Record) : Uuid := r.registration.id

/-- Whether this is the latest version of its server. -/
def isLatest (r : Record) : Bool := r.registration.isLatest

/-- When the version was published. -/
def publishedAt (r : Record) : Instant := r.registration.publishedAt

/-- When the record was last changed. -/
def updatedAt (r : Record) : Instant := r.registration.updatedAt

/-- Whether a record is a given version of a server. -/
def isVersion (r : Record) (id : Uuid) (version : String) : Bool := r.id = id && r.version = version

/-- The record without the latest flag. -/
def demoted (r : Record) (now : Instant) : Record :=
  { r with registration := { r.registration with isLatest := false, updatedAt := now } }

@[simp] theorem isLatest_demoted (r : Record) (now : Instant) :
    (r.demoted now).isLatest = false := rfl

@[simp] theorem updatedAt_demoted (r : Record) (now : Instant) :
    (r.demoted now).updatedAt = now := rfl

@[simp] theorem manifest_demoted (r : Record) (now : Instant) :
    (r.demoted now).manifest = r.manifest := rfl

@[simp] theorem id_demoted (r : Record) (now : Instant) : (r.demoted now).id = r.id := rfl

@[simp] theorem publishedAt_demoted (r : Record) (now : Instant) :
    (r.demoted now).publishedAt = r.publishedAt := rfl

end Record

/-- Who asks for a change. -/
structure Publisher where
  subject : String
  /-- Admins are not held to the quota. -/
  isAdmin : Bool := false
deriving DecidableEq, Repr

end ManifestRegistry
