/-
**Events.**

The registry tells its listeners what has changed: a version was published, another version became
the latest one of its server, a version was edited.  The document of an event names its kind in the
entry `type`.

Main definitions:

* `Event` — what has changed;
* `Event.kind`, `Event.serverId`, `Event.name` — what all events have;
* `Event.json`, `Event.shape` — **its document, written and read**.
-/

import ManifestRegistry.Record.Document

set_option relaxedAutoImplicit false
set_option autoImplicit false

namespace ManifestRegistry

/-- What has changed in the registry. -/
inductive Event where
  | published (serverId : Uuid) (name version : String) (isLatest : Bool) (publishedBy : String)
      (publishedAt : Instant)
  | latestChanged (serverId : Uuid) (name : String) (previous : Option String) (current : String)
  | edited (serverId : Uuid) (name version editedBy : String)
deriving DecidableEq, Repr

namespace Event

open Shape

/-- The kinds of events. -/
inductive Kind where
  | published
  | latestChanged
  | edited
deriving DecidableEq, Repr

/-- The names of the kinds. -/
def Kind.names : List (String × Kind) :=
  [("server_published", published), ("latest_version_changed", latestChanged),
    ("server_edited", edited)]

/-- The name of a kind. -/
def Kind.name : Kind → String
  | published => "server_published"
  | latestChanged => "latest_version_changed"
  | edited => "server_edited"

theorem Kind.lookup_name (k : Kind) : names.lookup k.name = some k := by
  cases k <;> decide

/-- The kind of an event. -/
def kind : Event → Kind
  | published .. => .published
  | latestChanged .. => .latestChanged
  | edited .. => .edited

/-- The server that has changed. -/
def serverId : Event → Uuid
  | published i .. => i
  | latestChanged i .. => i
  | edited i .. => i

/-- The name of the server that has changed. -/
def name : Event → String
  | published _ n .. => n
  | latestChanged _ n .. => n
  | edited _ n .. => n

/-! ### Writing -/

/-- The entries of an event's document behind its kind. -/
def details : Event → List (String × Json)
  | published serverId name version isLatest publishedBy publishedAt =>
    [("server_id", .text serverId.text), ("name", .text name), ("version", .text version),
      ("is_latest", .bool isLatest), ("published_by", .text publishedBy),
      ("published_at", Registration.instantJson publishedAt)]
  | latestChanged serverId name previous current =>
    [("server_id", .text serverId.text), ("name", .text name)] ++
      optionalEntry "previous_version" .text previous ++ [("current_version", .text current)]
  | edited serverId name version editedBy =>
    [("server_id", .text serverId.text), ("name", .text name), ("version", .text version),
      ("edited_by", .text editedBy)]

/-- The key of an event's kind. -/
def kindKey : String := "type"

/-- The document of an event. -/
def json (e : Event) : Json := .object ((kindKey, .text e.kind.name) :: e.details)

/-! ### Reading -/

/-- A publication in the making. -/
structure PublishedDraft where
  serverId : Option Uuid := none
  name : Option String := none
  version : Option String := none
  isLatest : Option Bool := none
  publishedBy : Option String := none
  publishedAt : Option Instant := none

/-- The fields of a publication. -/
def publishedLayout : Layout PublishedDraft Event where
  title := "struct variant DomainEvent::ServerPublished"
  fields :=
    [.of "server_id" uuid PublishedDraft.serverId
        (fun d a => { d with serverId := some a }) false,
      .of "name" string PublishedDraft.name (fun d a => { d with name := some a }) false,
      .of "version" string PublishedDraft.version (fun d a => { d with version := some a }) false,
      .of "is_latest" bool PublishedDraft.isLatest
        (fun d a => { d with isLatest := some a }) false,
      .of "published_by" string PublishedDraft.publishedBy
        (fun d a => { d with publishedBy := some a }) false,
      .of "published_at" instant PublishedDraft.publishedAt
        (fun d a => { d with publishedAt := some a }) false]
  start := {}
  finish d := do
    let serverId ← need "server_id" d.serverId
    let name ← need "name" d.name
    let version ← need "version" d.version
    let isLatest ← need "is_latest" d.isLatest
    let publishedBy ← need "published_by" d.publishedBy
    let publishedAt ← need "published_at" d.publishedAt
    .ok (.published serverId name version isLatest publishedBy publishedAt)

/-- A change of the latest version in the making. -/
structure LatestChangedDraft where
  serverId : Option Uuid := none
  name : Option String := none
  previous : Option (Option String) := none
  current : Option String := none

/-- The fields of a change of the latest version. -/
def latestChangedLayout : Layout LatestChangedDraft Event where
  title := "struct variant DomainEvent::LatestVersionChanged"
  fields :=
    [.of "server_id" uuid LatestChangedDraft.serverId
        (fun d a => { d with serverId := some a }) false,
      .of "name" string LatestChangedDraft.name (fun d a => { d with name := some a }) false,
      .of "previous_version" (optional string) LatestChangedDraft.previous
        (fun d a => { d with previous := some a }) false,
      .of "current_version" string LatestChangedDraft.current
        (fun d a => { d with current := some a }) false]
  start := {}
  finish d := do
    let serverId ← need "server_id" d.serverId
    let name ← need "name" d.name
    let current ← need "current_version" d.current
    .ok (.latestChanged serverId name d.previous.join current)

/-- An edit in the making. -/
structure EditedDraft where
  serverId : Option Uuid := none
  name : Option String := none
  version : Option String := none
  editedBy : Option String := none

/-- The fields of an edit. -/
def editedLayout : Layout EditedDraft Event where
  title := "struct variant DomainEvent::ServerEdited"
  fields :=
    [.of "server_id" uuid EditedDraft.serverId (fun d a => { d with serverId := some a }) false,
      .of "name" string EditedDraft.name (fun d a => { d with name := some a }) false,
      .of "version" string EditedDraft.version (fun d a => { d with version := some a }) false,
      .of "edited_by" string EditedDraft.editedBy
        (fun d a => { d with editedBy := some a }) false]
  start := {}
  finish d := do
    let serverId ← need "server_id" d.serverId
    let name ← need "name" d.name
    let version ← need "version" d.version
    let editedBy ← need "edited_by" d.editedBy
    .ok (.edited serverId name version editedBy)

/-- What stands behind the kind of an event, as an object or an array. -/
def detailsShape (k : Kind) : Shape Event :=
  match k with
  | .published => publishedLayout.shape
  | .latestChanged => latestChangedLayout.shape
  | .edited => editedLayout.shape

/-- An event in the making. -/
structure Draft where
  kind : Option Kind := none
  /-- The other entries, set aside, the last one first. -/
  aside : List (Json.Source × Json.Source) := []

/-- One entry of an event's document: its kind, or one to be set aside, which must be JSON in full.
-/
def Draft.readEntry (o : Origin) (d : Draft) (key s : Json.Source) : Except Fault Draft :=
  match key with
  | .text k =>
    if k = kindKey then
      if d.kind.isSome then .error (.duplicateField k)
      else (named Kind.names s).map fun k => { d with kind := some k }
    else (whole o s).map fun _ => { d with aside := (.text k, s) :: d.aside }
  | .unreadable | .broken | .null | .bool _ | .number _ | .array _ | .object _ => .error .notJson

/-- The entries of an event's document, from first to last. -/
def Draft.readEntries (o : Origin) (d : Draft) :
    List (Json.Source × Json.Source) → Except Fault Draft
  | [] => .ok d
  | (k, s) :: rest =>
    match d.readEntry o k s with
    | .ok d => d.readEntries o rest
    | .error e => .error e

/-- The shape of an event: an object, or an array with the kind in front. -/
def shape : Shape Event := fun o s =>
  match s with
  | .object es => do
    let inner ← o.enter
    let d ← ({} : Draft).readEntries inner es
    let k ← need kindKey d.kind
    detailsShape k .aside (.object d.aside.reverse)
  | .array [] => o.enter.bind fun _ => .error (.missingField kindKey)
  | .array (s :: ss) => do
    let inner ← o.enter
    let k ← named Kind.names s
    let _ ← items (whole inner) ss
    detailsShape k .aside (.array ss)
  | s => .error (Fault.wrongKind s "internally tagged enum DomainEvent")

end Event

end ManifestRegistry
