/-
**Records in a table.**

A table has a row for each version: the text of its document, and columns for what listings and
counts look at.  A row's sequence number is its place in the table, from one.  Answers are read back
from the documents.  The table itself refuses two rows with one name and version and two latest rows
of one name; a statement that would break this changes nothing at all.

Main definitions:

* `Storage.Row` — a row; `Storage.Row.ofRecord`, `Storage.Row.record?` — from records and back;
* `Storage.Row.selectedBy`, `Storage.Row.shownBy` — whether a filter selects a row, told from its columns,
  and what a listing has of it;
* `Storage.Rows` — the table and whether the store is closed;
* `Storage.Rows.commit` — **a new version and the demotion of the previous latest one**;
* the instance of `Store`.
-/

import ManifestRegistry.Json.Nesting
import ManifestRegistry.Storage.Call
import ManifestRegistry.Text.Order

set_option relaxedAutoImplicit false
set_option autoImplicit false

namespace ManifestRegistry

namespace Storage

/-- A row of the table. -/
structure Row where
  id : Uuid
  name : String
  version : String
  isLatest : Bool
  /-- When the version was published, as a stamp. -/
  publishedAt : String
  /-- When the record was last changed, as a stamp. -/
  updatedAt : String
  publishedBy : Option String
  /-- The text of the record's document. -/
  document : String
deriving DecidableEq, Repr

namespace Row

/-! ### Records as rows -/

/-- The row of a record. -/
def ofRecord (r : Record) : Row where
  id := r.id
  name := r.name
  version := r.version
  isLatest := r.isLatest
  publishedAt := r.publishedAt.stamp
  updatedAt := r.updatedAt.stamp
  publishedBy := r.publishedBy
  document := r.text

/-- The reason why a document cannot be read. -/
def unreadable (document : String) : StorageError :=
  let reason :=
    match Json.deepColumn? Json.nestingLimit document with
    | some column => "recursion limit exceeded at line 1 column " ++ toString column
    | none => "malformed document"
  .backend ("Conversion error from type Text at index: 1, " ++ reason)

/-- The record of a row, read from its document. -/
def record? (row : Row) : Except StorageError Record :=
  match Shape.decodeText Record.shape row.document with
  | .ok r => .ok { r with publishedBy := row.publishedBy }
  | .error _ => .error (unreadable row.document)

/-- How many containers may be nested in a document for its URLs to be looked at. -/
def urlNesting : Nat := 1000

/-- Whether the document of a row nests too deep for its URLs to be looked at. -/
def isTangled (row : Row) : Bool := urlNesting < (Json.Document.ofText row.document).root.nesting

/-- The URLs cannot be looked at. -/
def tangled : StorageError := .backend "malformed JSON"

/-- The URLs of the remote endpoints that a document lists.  Nothing else in it is looked at. -/
def documentUrls (document : String) : List String :=
  match (Json.Document.ofText document).root.get? "remotes" with
  | some (.array remotes) =>
    remotes.filterMap fun remote =>
      match remote.get? "url" with
      | some (.text url) => some url
      | _ => none
  | _ => []

/-- Whether a row is a given version of a server. -/
def isVersion (row : Row) (id : Uuid) (version : String) : Bool :=
  row.id = id && row.version = version

/-- Whether a filter selects a row, told from its columns and its document.  A row whose URLs are asked
for and cannot be looked at counts as selected. -/
def selectedBy (f : Filter) (row : Row) : Bool :=
  Filter.holds f.name (row.name = ·) && Filter.holds f.version (row.version = ·) &&
    Filter.holds f.id (row.id = ·) &&
    Filter.holds f.remoteUrl (fun url => row.isTangled || (documentUrls row.document).contains url) &&
    Filter.holds f.isLatest (row.isLatest = ·) &&
    Filter.holds f.updatedSince (fun since => Text.before since.stamp row.updatedAt) &&
    Filter.holds f.nameContains (Filter.hasFragment row.name)

/-- What a listing has of a row that its filter selects. -/
def shownBy (f : Filter) (row : Row) : Except StorageError Record :=
  if f.remoteUrl.isSome && row.isTangled then .error tangled else row.record?

end Row

/-- The rows of a table in the order in which they came. -/
structure Rows where
  rows : List Row := []
  closed : Bool := false

namespace Rows

/-! ### Constraints -/

/-- There are two rows with one name and version. -/
def repeatedVersion : StorageError :=
  .alreadyExists "UNIQUE constraint failed: servers.server_name, servers.version"

/-- There are two latest rows of one name. -/
def secondLatest : StorageError := .conflict "UNIQUE constraint failed: servers.server_name"

/-- Whether a row may stand beside others. -/
def checkBeside (others : List Row) (row : Row) : Except StorageError Unit :=
  if row.isLatest && others.any fun r => r.name = row.name && r.isLatest then .error secondLatest
  else if others.any fun r => r.name = row.name && r.version = row.version then
    .error repeatedVersion
  else .ok ()

/-! ### Reading -/

/-- Numbered rows read in some way, all of them or none. -/
def readRows (read : Row → Except StorageError Record) :
    List (Nat × Row) → Except StorageError (List (Nat × Record))
  | [] => .ok []
  | (n, row) :: rest => do
    let r ← read row
    let rs ← readRows read rest
    .ok ((n, r) :: rs)

/-- The records of rows, all of them or none. -/
def records? : List (Nat × Row) → Except StorageError (List (Nat × Record)) := readRows Row.record?

/-- The rows with their sequence numbers. -/
def sequenced (rows : List Row) : List (Nat × Row) := (rows.zipIdx 1).map fun (r, n) => (n, r)

/-- The first rows that a filter selects behind a place. -/
def select (rows : List Row) (filter : Filter) (start : Option Nat) (limit : Nat) :
    List (Nat × Row) :=
  ((sequenced rows).filter fun r => Page.isBehind start r.1 && r.2.selectedBy filter).take limit

/-- A page of the selected records.  A faulty cursor is told even by a closed store. -/
def list (t : Rows) (filter : Filter) (cursor : Option String) (limit : Nat) :
    Reply (Page Record) :=
  match Page.start? cursor with
  | .error e => refuse e
  | .ok start =>
    if t.closed then refuseClosed
    else
      match readRows (Row.shownBy filter) (select t.rows filter start limit) with
      | .ok rs => .ok (Page.ofSequenced rs limit)
      | .error e => refuse e

/-- The record of a row that may be absent. -/
def answer (row : Option Row) : Reply (Option Record) :=
  match row.map Row.record? with
  | none => .ok none
  | some (.ok r) => .ok (some r)
  | some (.error e) => refuse e

/-- The latest version of a server: the last flagged row, or the last one if none is flagged. -/
def getById (t : Rows) (id : Uuid) : Reply (Option Record) :=
  if t.closed then refuseClosed
  else
    let versions := t.rows.filter fun r => r.id = id
    answer ((versions.filter Row.isLatest).getLast? <|> versions.getLast?)

/-- A given version of a server. -/
def getVersion (t : Rows) (id : Uuid) (version : String) : Reply (Option Record) :=
  if t.closed then refuseClosed else answer (t.rows.find? fun r => r.isVersion id version)

/-- Whether a subject published a row at a time whose stamp is not before another. -/
def countsFor (subject : String) (since : String) (row : Row) : Bool :=
  row.publishedBy = some subject && !Text.before row.publishedAt since

/-- How often a subject has published in the last hours.  The time is looked at before the store. -/
def countRecent (t : Rows) (now : Instant) (subject : String) (hours : Nat) : Reply Nat :=
  match now.minusHours? hours with
  | none => .error .crashed
  | some since =>
    if t.closed then refuseClosed else .ok (t.rows.countP (countsFor subject since.stamp))

/-! ### Writing -/

/-- The rows with one more. -/
def insert (rows : List Row) (record : Record) : Except StorageError (List Row) := do
  let row := Row.ofRecord record
  checkBeside rows row
  .ok (rows ++ [row])

/-- A row changed by an update: what tells a row apart and who published it when stays. -/
def revise (record : Record) (row : Row) : Row :=
  { row with
    name := record.name
    isLatest := record.isLatest
    updatedAt := record.updatedAt.stamp
    document := record.text }

/-- The rows behind `done` revised one after the other where they are a given version; each has to
be admitted beside all others as they are then. -/
def reviseAll (id : Uuid) (record : Record) (done : List Row) :
    List Row → Except StorageError (List Row)
  | [] => .ok done
  | row :: rest =>
    if row.isVersion id record.version then do
      let row := revise record row
      checkBeside (done ++ rest) row
      reviseAll id record (done ++ [row]) rest
    else reviseAll id record (done ++ [row]) rest

/-- A row demoted. -/
def demoteRow (previous : Record) (row : Row) : Row :=
  { row with isLatest := false, updatedAt := previous.updatedAt.stamp, document := previous.text }

/-- Whether a row is the latest one and a given version. -/
def isLatestVersion (previous : Record) (row : Row) : Bool :=
  row.isVersion previous.id previous.version && row.isLatest

/-- The rows with the previous latest version demoted, if it still is the latest one. -/
def demote (rows : List Row) (previous : Record) : Except StorageError (List Row) :=
  if rows.any (isLatestVersion previous) then
    .ok (rows.map fun r => if isLatestVersion previous r then demoteRow previous r else r)
  else .error (notLatest previous)

/-- The rows after a commit: the first row of the name tells whose name it is, then the previous
latest version is demoted, then the new version is added. -/
def committed (rows : List Row) (record : Record) (previous : Option Record) :
    Except StorageError (List Row) := do
  match rows.find? fun r => r.name = record.name with
  | some owner => if owner.id ≠ record.id then throw (ownedBy record owner.id)
  | none => pure ()
  let rows ←
    match previous with
    | some p => demote rows p
    | none => .ok rows
  insert rows record

/-- The store with its rows changed, answered with the record, or as it was. -/
def write (t : Rows) (record : Record) (changed : Except StorageError (List Row)) :
    Reply Record × Rows :=
  match changed with
  | .ok rows => (.ok record, { t with rows })
  | .error e => (refuse e, t)

/-- A record added. -/
def create (t : Rows) (record : Record) : Reply Record × Rows :=
  if t.closed then (refuseClosed, t) else t.write record (insert t.rows record)

/-- A record put in place of all rows with an identity and its version. -/
def update (t : Rows) (id : Uuid) (record : Record) : Reply Record × Rows :=
  if t.closed then (refuseClosed, t)
  else if t.rows.any fun r => r.isVersion id record.version then
    t.write record (reviseAll id record [] t.rows)
  else (refuse (noVersion id record.version), t)

/-- A new version and the demotion of the previous latest one, both or neither. -/
def commit (t : Rows) (record : Record) (previous : Option Record) : Reply Record × Rows :=
  if t.closed then (refuseClosed, t) else t.write record (committed t.rows record previous)

/-- The store closed; closing it again changes nothing. -/
def close (t : Rows) : Reply Unit × Rows := (.ok (), { t with closed := true })

instance : Store Rows where
  call c now t :=
    match c with
    | .list filter cursor limit => (t.list filter cursor limit, t)
    | .getById id => (t.getById id, t)
    | .getVersion id version => (t.getVersion id version, t)
    | .create record => t.create record
    | .update id record => t.update id record
    | .countRecent subject hours => (t.countRecent now subject hours, t)
    | .commit record previous => t.commit record previous
    | .close => t.close
  size t := t.rows.length

end Rows

end Storage

end ManifestRegistry
