/-
**Rows that keep their numbers.**

The table numbers its rows by itself: a new row gets the number after the largest one that was ever given, and
rows that are changed keep theirs.  Numbers do not go beyond the largest integer that a column can hold; once
it has been given, no row can be added.  A cursor or a limit beyond it counts as that integer.

Main definitions:

* `Storage.Table` — rows in the order of their numbers, and the largest number that was given;
* `Storage.Table.select` — **the first rows behind a place that a filter selects**;
* `Storage.Table.insert`, `Storage.Table.inPlace` — **a row under the next number**, and rows changed;
* the instance of `Store`.
-/

import ManifestRegistry.Storage.Rows

set_option relaxedAutoImplicit false
set_option autoImplicit false

namespace ManifestRegistry

namespace Storage

/-- Rows with their sequence numbers, in the order of these. -/
structure Table where
  rows : List (Nat × Row) := []
  /-- The largest number that was ever given. -/
  last : Nat := 0
  closed : Bool := false

namespace Table

/-- The largest integer that a column can hold. -/
def largest : Nat := 9223372036854775807

/-- No number is left for another row. -/
def full : StorageError := .backend "database or disk is full"

/-- The same table without numbers. -/
def plain (t : Table) : Rows := ⟨t.rows.map Prod.snd, t.closed⟩

/-! ### Reading -/

/-- The first rows that a filter selects behind a place. -/
def select (t : Table) (filter : Filter) (start : Option Nat) (limit : Nat) : List (Nat × Row) :=
  (t.rows.filter fun r =>
    Page.isBehind (start.map fun n => min n largest) r.1 && r.2.selectedBy filter).take (min limit largest)

/-- A page of the selected records.  A faulty cursor is told even by a closed store. -/
def list (t : Table) (filter : Filter) (cursor : Option String) (limit : Nat) : Reply (Page Record) :=
  match Page.start? cursor with
  | .error e => refuse e
  | .ok start =>
    if t.closed then refuseClosed
    else
      match Rows.readRows (Row.shownBy filter) (t.select filter start limit) with
      | .ok rs => .ok (Page.ofSequenced rs limit)
      | .error e => refuse e

/-! ### Writing -/

/-- Rows changed where they stand, under their numbers. -/
def inPlace (t : Table) (rows : List Row) : Table := { t with rows := (t.rows.map Prod.fst).zip rows }

/-- The row of a record under the next number.  That there is none left is found out first. -/
def insert (t : Table) (record : Record) : Except StorageError Table :=
  if largest ≤ t.last then .error full
  else do
    let row := Row.ofRecord record
    Rows.checkBeside t.plain.rows row
    .ok { t with last := t.last + 1, rows := t.rows ++ [(t.last + 1, row)] }

/-- The previous latest version demoted, if there is one and it still is the latest one. -/
def demoted (t : Table) : Option Record → Except StorageError Table
  | some p => (Rows.demote t.plain.rows p).map t.inPlace
  | none => .ok t

/-- The table after a commit. -/
def committed (t : Table) (record : Record) (previous : Option Record) : Except StorageError Table := do
  match t.plain.rows.find? fun r => r.name = record.name with
  | some owner => if owner.id ≠ record.id then throw (ownedBy record owner.id)
  | none => pure ()
  let t ← t.demoted previous
  t.insert record

/-- The table changed, answered with the record, or as it was. -/
def write (t : Table) (record : Record) : Except StorageError Table → Reply Record × Table
  | .ok t => (.ok record, t)
  | .error e => (refuse e, t)

/-- A record added. -/
def create (t : Table) (record : Record) : Reply Record × Table :=
  if t.closed then (refuseClosed, t) else t.write record (t.insert record)

/-- A record put in place of all rows with an identity and its version. -/
def update (t : Table) (id : Uuid) (record : Record) : Reply Record × Table :=
  if t.closed then (refuseClosed, t)
  else if t.plain.rows.any fun r => r.isVersion id record.version then
    t.write record ((Rows.reviseAll id record [] t.plain.rows).map t.inPlace)
  else (refuse (noVersion id record.version), t)

/-- A new version and the demotion of the previous latest one, both or neither. -/
def commit (t : Table) (record : Record) (previous : Option Record) : Reply Record × Table :=
  if t.closed then (refuseClosed, t) else t.write record (t.committed record previous)

/-- The store closed; closing it again changes nothing. -/
def close (t : Table) : Reply Unit × Table := (.ok (), { t with closed := true })

/-- The same table opened again, with the numbers that it has given. -/
def reopen (t : Table) : Table := { t with closed := false }

instance : Store Table where
  call c now t :=
    match c with
    | .list filter cursor limit => (t.list filter cursor limit, t)
    | .getById id => (t.plain.getById id, t)
    | .getVersion id version => (t.plain.getVersion id version, t)
    | .create record => t.create record
    | .update id record => t.update id record
    | .countRecent subject hours => (t.plain.countRecent now subject hours, t)
    | .commit record previous => t.commit record previous
    | .close => t.close
  size t := t.rows.length

end Table

end Storage

end ManifestRegistry
