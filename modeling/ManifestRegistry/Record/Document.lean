/-
**Stored records as JSON.**

The document of a record has the entries of its manifest and beside them the registration and, if
there is anything in it, the publisher's bag.  When it is read, these two are read as they are met;
all other entries are set aside and read as a manifest at the end.

Main definitions:

* `Registration.json`, `Registration.shape` — registrations;
* `Record.json`, `Record.text` — the document of a record;
* `Record.shape` — **reading it**.
-/

import ManifestRegistry.Manifest.Document
import ManifestRegistry.Record.Basic

set_option relaxedAutoImplicit false
set_option autoImplicit false

namespace ManifestRegistry

open Shape

/-! ### Registrations -/

namespace Registration

/-- The document of an instant. -/
def instantJson (i : Instant) : Json := .text i.text

/-- The document of a registration. -/
def json (r : Registration) : Json :=
  .object <| [("id", .text r.id.text), ("published_at", instantJson r.publishedAt),
    ("updated_at", instantJson r.updatedAt), ("is_latest", .bool r.isLatest)] ++
    optionalEntry "release_date" instantJson r.releaseDate

/-- A registration in the making. -/
structure Draft where
  id : Option Uuid := none
  publishedAt : Option Instant := none
  updatedAt : Option Instant := none
  isLatest : Option Bool := none
  releaseDate : Option (Option Instant) := none

/-- The fields of a registration. -/
def layout : Layout Draft Registration where
  title := "struct RegistryExtensions"
  fields :=
    [.of "id" uuid Draft.id (fun d a => { d with id := some a }) false,
      .of "published_at" instant Draft.publishedAt
        (fun d a => { d with publishedAt := some a }) false,
      .of "updated_at" instant Draft.updatedAt
        (fun d a => { d with updatedAt := some a }) false,
      .of "is_latest" bool Draft.isLatest (fun d a => { d with isLatest := some a }) false,
      .of "release_date" (optional instant) Draft.releaseDate
        (fun d a => { d with releaseDate := some a }) true]
  start := {}
  finish d := do
    let id ← need "id" d.id
    let publishedAt ← need "published_at" d.publishedAt
    let updatedAt ← need "updated_at" d.updatedAt
    let isLatest ← need "is_latest" d.isLatest
    .ok { id, publishedAt, updatedAt, isLatest, releaseDate := d.releaseDate.join }

/-- The shape of a registration. -/
def shape : Shape Registration := layout.shape

end Registration

/-! ### Records -/

namespace Record

/-- The key of the registration. -/
def registrationKey : String := "registryExtensions"

/-- The key of the publisher's bag. -/
def bagKey : String := "publisherExtensions"

/-- The entries of a record's document. -/
def entries (r : Record) : List (String × Json) :=
  r.manifest.entries ++ [(registrationKey, r.registration.json)] ++
    if r.bag.isEmpty then [] else [(bagKey, .object r.bag)]

/-- The document of a record; who published it is not part of it. -/
def json (r : Record) : Json := .object r.entries

/-- The text of a record's document. -/
def text (r : Record) : String := r.json.compress

/-- A record in the making. -/
structure Draft where
  /-- The entries of the manifest, set aside, the last one first. -/
  aside : List (Json.Source × Json.Source) := []
  registration : Option Registration := none
  bag : Option Bag := none

/-- An entry that belongs to the manifest: in a text it must be JSON in full. -/
def Draft.setAside (o : Origin) (d : Draft) (key : String) (s : Json.Source) :
    Except Fault Draft :=
  let kept : Draft := { d with aside := (.text key, s) :: d.aside }
  match o with
  | .text _ => (whole o s).map fun _ => kept
  | _ => .ok kept

/-- One entry of a record's document. -/
def Draft.readEntry (o : Origin) (d : Draft) (key s : Json.Source) : Except Fault Draft :=
  match key with
  | .text k =>
    if k = registrationKey then
      if d.registration.isSome then .error (.duplicateField k)
      else (Registration.shape o s).map fun r => { d with registration := some r }
    else if k = bagKey then
      if d.bag.isSome then .error (.duplicateField k)
      else (Shape.bag o s).map fun b => { d with bag := some b }
    else d.setAside o k s
  | .unreadable | .broken | .null | .bool _ | .number _ | .array _ | .object _ => .error .notJson

/-- The entries of a record's document, from first to last. -/
def Draft.readEntries (o : Origin) (d : Draft) :
    List (Json.Source × Json.Source) → Except Fault Draft
  | [] => .ok d
  | (k, s) :: rest =>
    match d.readEntry o k s with
    | .ok d => d.readEntries o rest
    | .error e => .error e

/-- The record of a draft: the registration first, then the manifest. -/
def Draft.finish (d : Draft) : Except Fault Record := do
  let registration ← need registrationKey d.registration
  let manifest ← Manifest.layout.ofEntries .aside d.aside.reverse
  .ok { manifest, registration, bag := d.bag.getD [] }

/-- The shape of a record. -/
def shape : Shape Record := fun o s =>
  match s with
  | .object es => do
    let inner ← o.enter
    let d ← ({} : Draft).readEntries inner es
    d.finish
  | s => .error (Fault.wrongKind s "struct ServerRecord")

end Record

end ManifestRegistry
