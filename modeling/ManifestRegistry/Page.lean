/-
**Pages.**

A store keeps its records in an order given by sequence numbers.  A page is a run of that order; if
it is full, it comes with the cursor of its last record, and the next page starts strictly behind
that.

Main definitions:

* `Page` — records and the cursor to go on with;
* `Page.ofSequenced` — the page of a run of records;
* `Page.start?` — the place a listing starts behind;
* `Page.paginate` — **a page of a list of records**;
* `Page.json`, `Page.shape` — the document of a page of records.
-/

import ManifestRegistry.Cursor
import ManifestRegistry.Record.Document
import ManifestRegistry.Storage.Error

set_option relaxedAutoImplicit false
set_option autoImplicit false

namespace ManifestRegistry

/-- A run of records, and the cursor to go on with if there may be more. -/
structure Page (α : Type) where
  items : List α
  nextCursor : Option String
deriving DecidableEq, Repr

namespace Page

variable {α : Type}

/-- The number of records on a page. -/
def size (p : Page α) : Nat := p.items.length

/-- Whether a page has no records. -/
def isEmpty (p : Page α) : Bool := p.items.isEmpty

/-! ### Making pages -/

/-- The page of a run of records that was cut off at `limit`: there may be more if it is full. -/
def ofSequenced (rows : List (Nat × α)) (limit : Nat) : Page α where
  items := rows.map Prod.snd
  nextCursor :=
    if 0 < limit ∧ rows.length = limit then rows.getLast?.map fun r => (Cursor.mk r.1).encode
    else none

/-- The sequence number that a listing starts behind; none at the beginning, which an absent or
empty cursor stands for. -/
def start? (cursor : Option String) : Except StorageError (Option Nat) :=
  match cursor with
  | none => .ok none
  | some raw =>
    if raw.isEmpty then .ok none
    else
      match Cursor.parse? raw with
      | some c => .ok (some c.sequence)
      | none => .error (.invalidCursor raw)

/-- Whether a sequence number is strictly behind the start. -/
def isBehind (start : Option Nat) (sequence : Nat) : Bool :=
  match start with
  | none => true
  | some s => s < sequence

/-- A page of at most `limit` of the given records behind a cursor. -/
def paginate (rows : List (Nat × α)) (cursor : Option String) (limit : Nat) :
    Except StorageError (Page α) :=
  match start? cursor with
  | .error e => .error e
  | .ok start => .ok (ofSequenced ((rows.filter fun r => isBehind start r.1).take limit) limit)

@[simp] theorem items_ofSequenced (rows : List (Nat × α)) (limit : Nat) :
    (ofSequenced rows limit).items = rows.map Prod.snd := rfl

/-- A page has a cursor to go on with exactly if it is full and has room for something. -/
theorem nextCursor_ofSequenced_isSome {rows : List (Nat × α)} {limit : Nat} :
    (ofSequenced rows limit).nextCursor.isSome ↔ 0 < limit ∧ rows.length = limit := by
  unfold ofSequenced
  by_cases h : 0 < limit ∧ rows.length = limit
  · have hne : rows ≠ [] := by
      rintro rfl
      simp at h
      omega
    simp [h, List.getLast?_eq_some_getLast hne]
  · simp [h]

/-! ### Documents -/

/-- The document of a page of records. -/
def json (p : Page Record) : Json :=
  .object <| [("items", .array (p.items.map Record.json))] ++
    optionalEntry "next_cursor" .text p.nextCursor

/-- A page in the making. -/
structure Draft where
  items : Option (List Record) := none
  nextCursor : Option (Option String) := none

/-- The fields of a page. -/
def layout : Shape.Layout Draft (Page Record) where
  title := "struct Page"
  fields :=
    [.of "items" (Shape.list Record.shape) Draft.items
        (fun d a => { d with items := some a }) false,
      .of "next_cursor" (Shape.optional Shape.string) Draft.nextCursor
        (fun d a => { d with nextCursor := some a }) false]
  start := {}
  finish d := do
    let items ← Shape.need "items" d.items
    .ok { items, nextCursor := d.nextCursor.join }

/-- The shape of a page of records. -/
def shape : Shape (Page Record) := layout.shape

end Page

end ManifestRegistry
