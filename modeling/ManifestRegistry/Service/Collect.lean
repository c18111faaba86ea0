/-
**Reading all pages.**

Main definitions:

* `Service.Collect` — the records read so far and where to go on;
* `Service.Collect.machine` — **reading selected records page by page, up to a ceiling**;
* `Service.Walk.machine` — reading pages one after the other to the end.
-/

import ManifestRegistry.Service.Task

set_option relaxedAutoImplicit false
set_option autoImplicit false

namespace ManifestRegistry

namespace Service

open Storage

/-- A reading of all pages under way. -/
structure Collect where
  filter : Filter
  pageSize : Nat
  /-- How many records are wanted at most. -/
  ceiling : Nat
  cursor : Option String := none
  /-- The records read so far. -/
  records : List Record := []

namespace Collect

/-- The reading of all selected records by pages of some size, at least one, up to a ceiling. -/
def start (filter : Filter) (pageSize ceiling : Nat) : Collect where
  filter := filter
  pageSize := max pageSize 1
  ceiling := ceiling

/-- The page that is due. -/
def ask (c : Collect) : Call := .list c.filter c.cursor c.pageSize

/-- The reading after a page: it ends at the ceiling or with the last page. -/
def receive (c : Collect) (_ : Moment) (reply : Reply (Page Record)) :
    Progress Collect (Reply (List Record)) :=
  match reply with
  | .error e => .finished (.error e)
  | .ok page =>
    let records := c.records ++ page.items
    if c.ceiling ≤ records.length then .finished (.ok (records.take c.ceiling))
    else
      match page.nextCursor with
      | some cursor => .running { c with cursor := some cursor, records }
      | none => .finished (.ok records)

/-- Reading selected records page by page, up to a ceiling. -/
def machine : Machine Collect (Reply (List Record)) := ⟨ask, receive⟩

/-- As many calls as reading the pages of a store of some size can take. -/
def rounds (size : Nat) : Nat := size + 1

end Collect

/-- A walk over all pages under way. -/
structure Walk where
  filter : Filter
  limit : Nat
  cursor : Option String := none
  /-- The pages read so far. -/
  pages : List (List Record) := []

namespace Walk

/-- The page that is due. -/
def ask (w : Walk) : Call := .list w.filter w.cursor w.limit

/-- The walk after a page. -/
def receive (w : Walk) (_ : Moment) (reply : Reply (Page Record)) :
    Progress Walk (Reply (List (List Record))) :=
  match reply with
  | .error e => .finished (.error e)
  | .ok page =>
    let pages := w.pages ++ [page.items]
    match page.nextCursor with
    | some cursor => .running { w with cursor := some cursor, pages }
    | none => .finished (.ok pages)

/-- Reading pages one after the other to the end. -/
def machine : Machine Walk (Reply (List (List Record))) := ⟨ask, receive⟩

end Walk

end Service

end ManifestRegistry
