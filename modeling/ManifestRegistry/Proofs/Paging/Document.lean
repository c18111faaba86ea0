/-
**Pages read back.**

A page of records is read back as the page, each of its records as it is read back by itself: without
its publisher, and with instants that a clock can show.  What matters is how deep the page nests: a
record on it stands two containers deeper than one that is stored.

Main definitions:

* `Record.told`, `Page.told` — a record and a page as their documents tell them.

Main results:

* `Record.shape_json` — a tame record is read back wherever it stands, if it does not nest too deep;
* `Record.decodeText_json`, `Page.decodeText_json` — **records and pages are read back from their
  texts**.
-/

import ManifestRegistry.Page
import ManifestRegistry.Proofs.Records.Settled

set_option relaxedAutoImplicit false
set_option autoImplicit false

namespace ManifestRegistry

open Shape
open Json (printed printedEntries)

/-! ### Records -/

namespace Record

/-- A record as its document tells it: without its publisher, and with instants that a clock can
show. -/
def told (r : Record) : Record := { r.settled with publishedBy := none }

theorem told_of_isDated {r : Record} (h : r.IsDated) : r.told = { r with publishedBy := none } := by
  rw [told, settled_of_isDated h]

theorem isDated_told (r : Record) : r.told.IsDated := r.isDated_settled

theorem json_told (r : Record) : r.told.json = r.json := r.json_settled

/-- The bag of a tame record is legible if the record does not nest too deep. -/
theorem legible_bag {r : Record} (htame : r.bag.Tame) {levels : Nat} (hlevels : 0 < levels)
    (hdepth : Json.depth r.json ≤ levels + 1) : Json.Legible levels (.object r.bag) := by
  rw [Json.legible_iff (.object r.bag) htame]
  by_cases hempty : r.bag.isEmpty = true
  · rw [List.isEmpty_iff.1 hempty]
    exact hlevels
  · rw [json, Json.depth, Nat.add_le_add_iff_right, Json.depthEntries_le] at hdepth
    have hmem : (bagKey, Json.object r.bag) ∈ r.entries := by simp [entries, hempty]
    exact hdepth _ hmem

/-- **A tame record is read back wherever it stands**, if it does not nest too deep. -/
theorem shape_json {r : Record} (htame : r.bag.Tame) {levels : Nat} (hlevels : 4 ≤ levels)
    (hdepth : Json.depth r.json ≤ levels + 1) :
    shape (.text (levels + 1)) (printed r.json) = .ok r.told := by
  have hbag : r.told.bag.readWithin levels = .ok r.told.bag :=
    Bag.readWithin_eq (legible_bag htame (by omega) hdepth)
  rw [← r.json_told, shape_printed r.isDated_told hlevels, hbag]
  rfl

/-- **A tame record is read back from its text**, if it does not nest too deep. -/
theorem decodeText_json {r : Record} (htame : r.bag.Tame)
    (hdepth : Json.depth r.json ≤ Json.nestingLimit) : decodeText shape r.text = .ok r.told := by
  rw [text, decodeText_compress]
  exact shape_json htame (by omega) hdepth

end Record

/-! ### Pages -/

namespace Page

/-- A page as its document tells it. -/
def told (p : Page Record) : Page Record := { p with items := p.items.map Record.told }

/-- An item of a page stands two containers deep. -/
theorem depth_item_le {p : Page Record} {r : Record} (hr : r ∈ p.items) {levels : Nat}
    (hdepth : Json.depth p.json ≤ levels + 2) : Json.depth r.json ≤ levels := by
  rw [json, Json.depth, Nat.add_le_add_iff_right, Json.depthEntries_le] at hdepth
  have hitems := hdepth ("items", .array (p.items.map Record.json)) (by simp)
  rw [Json.depth, Nat.add_le_add_iff_right, Json.depthItems_le] at hitems
  exact hitems _ (List.mem_map_of_mem hr)

/-- **A page of tame records is read back from its text**, if it does not nest too deep. -/
theorem decodeText_json {p : Page Record} (htame : ∀ r ∈ p.items, r.bag.Tame)
    (hdepth : Json.depth p.json ≤ Json.nestingLimit) :
    decodeText shape p.json.compress = .ok p.told := by
  have hread : ∀ r ∈ p.items.map Record.told, Record.shape (.text 125) (printed r.json) = .ok r := by
    intro r hr
    obtain ⟨r, hmem, rfl⟩ := List.mem_map.1 hr
    rw [r.json_told]
    exact Record.shape_json (htame r hmem) (by omega) (depth_item_le hmem hdepth)
  have hlist : Shape.list Record.shape (.text 126) (printed (.array (p.items.map Record.json))) =
      .ok (p.items.map Record.told) := by
    have hjson : p.items.map Record.json = (p.items.map Record.told).map Record.json := by
      rw [List.map_map]
      exact List.map_congr_left fun r _ => r.json_told.symm
    rw [hjson]
    exact items_map (Record.shape (.text 125)) hread
  have hitems : layout.Takes (.text 126) {} [("items", .array (p.items.map Record.json))]
      { items := some (p.items.map Record.told) } :=
    .entry rfl rfl (congrArg (Except.map _) hlist)
  have hcursor : layout.Takes (.text 126) { items := some (p.items.map Record.told) }
      (optionalEntry "next_cursor" .text p.nextCursor)
      ⟨some (p.items.map Record.told), p.nextCursor.map some⟩ :=
    .optional rfl rfl (fun h => by rw [h]; rfl) fun s h => by rw [h]; rfl
  have htakes : layout.readEntries (.text 126) {} (printedEntries
      ([("items", .array (p.items.map Record.json))] ++
        optionalEntry "next_cursor" .text p.nextCursor)) =
      .ok ⟨some (p.items.map Record.told), p.nextCursor.map some⟩ := hitems.append hcursor
  rw [decodeText_compress]
  show (layout.readEntries (.text 126) {} _).bind layout.finish = _
  rw [htakes]
  cases hnext : p.nextCursor <;> simp [told, hnext, layout, need, bind, Except.bind]

end Page

end ManifestRegistry
