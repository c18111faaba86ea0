/-
**Records that keep their numbers.**

Listings go by sequence numbers.  A list that keeps its records with the numbers that they were given counts
the numbers that it has given: a new record gets the next one, a record put in the place of another one gets
that one's, and a commit that is refused has given none.

Main definitions:

* `Storage.Series` — records with their numbers, and the last number that was given;
* `Storage.Series.insert`, `Storage.Series.put` — **a record under the next number**, and one in the place of
  another;
* `Storage.Series.commit` — a new version and the demotion of the previous latest one;
* the instance of `Store`.
-/

import ManifestRegistry.Storage.Memory

set_option relaxedAutoImplicit false
set_option autoImplicit false

namespace ManifestRegistry

namespace Storage

/-- Records with their sequence numbers in the order in which they came. -/
structure Series where
  entries : List (Nat × Record) := []
  /-- The last number that was given. -/
  last : Nat := 0
  closed : Bool := false

namespace Series

/-- The records without their numbers. -/
def records (s : Series) : List Record := s.entries.map Prod.snd

/-- The same list without numbers. -/
def plain (s : Series) : Memory := ⟨s.records, s.closed⟩

/-- A page of the selected records. -/
def list (s : Series) (filter : Filter) (cursor : Option String) (limit : Nat) : Reply (Page Record) :=
  if s.closed then refuseClosed
  else
    match Page.paginate (s.entries.filter fun e => filter.selects e.2) cursor limit with
    | .ok page => .ok page
    | .error e => refuse e

/-! ### Writing -/

/-- A record under the next number, if it may be added. -/
def insert (s : Series) (record : Record) : Except StorageError Series :=
  (Memory.insert s.records record).map fun _ =>
    { s with last := s.last + 1, entries := s.entries ++ [(s.last + 1, record)] }

/-- A record in the place of another one, under the same number. -/
def put (s : Series) (i : Nat) (record : Record) : Series :=
  { s with entries := s.entries.modify i fun e => (e.1, record) }

/-- A record added. -/
def create (s : Series) (record : Record) : Reply Record × Series :=
  if s.closed then (refuseClosed, s)
  else
    match s.insert record with
    | .ok s => (.ok record, s)
    | .error e => (refuse e, s)

/-- A record put in place of the first one with an identity and its version. -/
def update (s : Series) (id : Uuid) (record : Record) : Reply Record × Series :=
  if s.closed then (refuseClosed, s)
  else
    match Memory.place? s.records id record.version with
    | some i => (.ok record, s.put i record)
    | none => (refuse (noVersion id record.version), s)

/-- A record put in a place, if one is named, and the entry that stood there. -/
def swap (s : Series) : Option (Nat × Record) → Option (Nat × (Nat × Record)) × Series
  | none => (none, s)
  | some (i, r) => (s.entries[i]?.map fun old => (i, old), s.put i r)

/-- An entry put back where it stood. -/
def restore (s : Series) : Option (Nat × (Nat × Record)) → Series
  | none => s
  | some (i, old) => { s with entries := s.entries.set i old }

/-- A new version and the demotion of the previous latest one, both or neither. -/
def commit (s : Series) (record : Record) (previous : Option Record) : Reply Record × Series :=
  if s.closed then (refuseClosed, s)
  else
    match Memory.ownerFlaw? s.records record, Memory.demotion? s.records previous with
    | some e, _ => (refuse e, s)
    | none, .error e => (refuse e, s)
    | none, .ok demotion =>
      let (saved, s) := s.swap demotion
      match s.insert record with
      | .ok s => (.ok record, s)
      | .error e => (refuse e, s.restore saved)

/-- The store closed; closing it again changes nothing. -/
def close (s : Series) : Reply Unit × Series := (.ok (), { s with closed := true })

instance : Store Series where
  call c now s :=
    match c with
    | .list filter cursor limit => (s.list filter cursor limit, s)
    | .getById id => (s.plain.getById id, s)
    | .getVersion id version => (s.plain.getVersion id version, s)
    | .create record => s.create record
    | .update id record => s.update id record
    | .countRecent subject hours => (s.plain.countRecent now subject hours, s)
    | .commit record previous => s.commit record previous
    | .close => s.close
  size s := s.entries.length

end Series

end Storage

end ManifestRegistry
