/-
**Records in a list.**

The plainest store keeps its records in the order in which they came; a record's sequence number is
its place in that order, from one.  Every call is one step.

Main definitions:

* `Storage.Memory` — the records and whether the store is closed;
* `Storage.Memory.sequenced` — the records with their sequence numbers;
* `Storage.Memory.insert` — a record added unless it breaks uniqueness;
* `Storage.Memory.commit` — **a new version and the demotion of the previous latest one**;
* the instance of `Store`.
-/

import ManifestRegistry.Storage.Call

set_option relaxedAutoImplicit false
set_option autoImplicit false

namespace ManifestRegistry

namespace Storage

/-- Records in the order in which they came. -/
structure Memory where
  records : List Record := []
  closed : Bool := false

namespace Memory

/-- The records with their sequence numbers. -/
def sequenced (records : List Record) : List (Nat × Record) :=
  (records.zipIdx 1).map fun (r, n) => (n, r)

@[simp] theorem map_snd_sequenced (records : List Record) :
    (sequenced records).map Prod.snd = records := by
  simp [sequenced, List.map_map, Function.comp_def]

/-- The place of the first record that is a given version of a server. -/
def place? (records : List Record) (id : Uuid) (version : String) : Option Nat :=
  records.findIdx? fun r => r.isVersion id version

/-! ### Reading -/

/-- A page of the selected records. -/
def list (m : Memory) (filter : Filter) (cursor : Option String) (limit : Nat) :
    Reply (Page Record) :=
  if m.closed then refuseClosed
  else
    match Page.paginate ((sequenced m.records).filter fun r => filter.selects r.2) cursor limit with
    | .ok page => .ok page
    | .error e => refuse e

/-- The latest version of a server, or the last one that came if none is flagged. -/
def getById (m : Memory) (id : Uuid) : Reply (Option Record) :=
  if m.closed then refuseClosed
  else
    let versions := m.records.filter fun r => r.id = id
    .ok (versions.find? Record.isLatest <|> versions.getLast?)

/-- A given version of a server. -/
def getVersion (m : Memory) (id : Uuid) (version : String) : Reply (Option Record) :=
  if m.closed then refuseClosed else .ok (m.records.find? fun r => r.isVersion id version)

/-- Whether a subject published a record at a time that is not before another. -/
def countsFor (subject : String) (since : Instant) (r : Record) : Bool :=
  r.publishedBy = some subject && !r.publishedAt.before since

/-- How often a subject has published in the last hours. -/
def countRecent (m : Memory) (now : Instant) (subject : String) (hours : Nat) : Reply Nat :=
  if m.closed then refuseClosed
  else
    match now.minusHours? hours with
    | some since => .ok (m.records.countP (countsFor subject since))
    | none => .error .crashed

/-! ### Writing -/

/-- The records with one more, if its name does not have the version yet and it is not a second
latest one. -/
def insert (records : List Record) (record : Record) : Except StorageError (List Record) :=
  if records.any fun r => r.name = record.name && r.version = record.version then
    .error (.alreadyExists (record.name ++ " " ++ record.version))
  else if record.isLatest && records.any fun r => r.name = record.name && r.isLatest then
    .error (.conflict (record.name ++ " already has a latest version"))
  else .ok (records ++ [record])

/-- A record added. -/
def create (m : Memory) (record : Record) : Reply Record × Memory :=
  if m.closed then (refuseClosed, m)
  else
    match insert m.records record with
    | .ok records => (.ok record, { m with records })
    | .error e => (refuse e, m)

/-- A record put in place of the first one with an identity and its version. -/
def update (m : Memory) (id : Uuid) (record : Record) : Reply Record × Memory :=
  if m.closed then (refuseClosed, m)
  else
    match place? m.records id record.version with
    | some i => (.ok record, { m with records := m.records.set i record })
    | none => (refuse (noVersion id record.version), m)

/-- The place of the version that a commit is to demote, if it still is the latest one, and what is to
stand there. -/
def demotion? (records : List Record) :
    Option Record → Except StorageError (Option (Nat × Record))
  | none => .ok none
  | some previous =>
    match place? records previous.id previous.version with
    | some i =>
      if (records[i]?.map Record.isLatest).getD false then .ok (some (i, previous))
      else .error (notLatest previous)
    | none => .error (notLatest previous)

/-- Why a record cannot have its name, if that belongs to another identity: the first record of the
name tells whose it is. -/
def ownerFlaw? (records : List Record) (record : Record) : Option StorageError :=
  match records.find? fun r => r.name = record.name with
  | some owner => if owner.id ≠ record.id then some (ownedBy record owner.id) else none
  | none => none

/-- A record put in a place, if one is named, and what is to be put there to undo this. -/
def swap (m : Memory) : Option (Nat × Record) → Option (Nat × Record) × Memory
  | none => (none, m)
  | some (i, r) => (m.records[i]?.map fun old => (i, old), { m with records := m.records.set i r })

/-- A new version and the demotion of the previous latest one, both or neither.  The demotion comes
first, so that the new version does not meet a second latest one; if the new version is refused, the
demoted record is put back. -/
def commit (m : Memory) (record : Record) (previous : Option Record) : Reply Record × Memory :=
  if m.closed then (refuseClosed, m)
  else
    match ownerFlaw? m.records record, demotion? m.records previous with
    | some e, _ => (refuse e, m)
    | none, .error e => (refuse e, m)
    | none, .ok demotion =>
      let (undo, m) := m.swap demotion
      match insert m.records record with
      | .ok records => (.ok record, { m with records })
      | .error e => (refuse e, (m.swap undo).2)

/-- The store closed; closing it again changes nothing. -/
def close (m : Memory) : Reply Unit × Memory := (.ok (), { m with closed := true })

instance : Store Memory where
  call c now m :=
    match c with
    | .list filter cursor limit => (m.list filter cursor limit, m)
    | .getById id => (m.getById id, m)
    | .getVersion id version => (m.getVersion id version, m)
    | .create record => m.create record
    | .update id record => m.update id record
    | .countRecent subject hours => (m.countRecent now subject hours, m)
    | .commit record previous => m.commit record previous
    | .close => m.close
  size m := m.records.length

end Memory

end Storage

end ManifestRegistry
