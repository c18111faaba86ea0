/-
**What columns say about records.**

A listing looks at the columns of a row and at the URLs in its document, and a count at the stamps.  In
the years that stamps are ordered in, all of them say what the record says.

Main results:

* `Storage.Row.documentUrls_text` — the URLs in a document are those of the manifest;
* `Storage.Row.isTangled_iff` — they cannot be looked at exactly if the bag nests too deep;
* `Storage.Row.selectedBy_ofRecord` — **a filter selects a row if it selects the record**;
* `Storage.Rows.countsFor_ofRecord` — a row counts if the record does.
-/

import ManifestRegistry.Proofs.Instant.Stamps
import ManifestRegistry.Proofs.Records.Settled
import ManifestRegistry.Storage.Memory
import ManifestRegistry.Storage.Rows

set_option relaxedAutoImplicit false
set_option autoImplicit false

namespace ManifestRegistry

namespace Storage

namespace Row

/-! ### The URLs in a document -/

theorem lookup_append_of_not_mem {key : String} {es fs : List (String × Json)}
    (h : key ∉ es.map Prod.fst) : (es ++ fs).lookup key = fs.lookup key := by
  rw [List.lookup_append, List.lookup_eq_none_iff.2, Option.none_or]
  intro e he
  have hne : key ≠ e.1 := fun heq => h (heq ▸ List.mem_map_of_mem he)
  simpa using hne

theorem get?_remotes (r : Record) :
    r.json.get? "remotes" = some (.array (r.manifest.remotes.map Manifest.Remote.json)) := by
  have hbefore : "remotes" ∉ ([("name", Json.text r.manifest.name),
      ("description", .text r.manifest.description), ("status", r.manifest.status.json)] ++
        optionalEntry "repository" Manifest.Repository.json r.manifest.repository ++
        [("version", Json.text r.manifest.version)] ++
        optionalEntry "website_url" .text r.manifest.websiteUrl).map Prod.fst := by
    cases r.manifest.repository <;> cases r.manifest.websiteUrl <;>
      simp [optionalEntry]
  show r.entries.lookup "remotes" = _
  rw [Record.entries, List.append_assoc, Manifest.entries, List.append_assoc,
    lookup_append_of_not_mem hbefore]
  rfl

/-- **The URLs in a document are those of the manifest**, whatever is in the bag beside it. -/
theorem documentUrls_text (r : Record) : documentUrls r.text = r.manifest.remoteUrls := by
  have hremotes : r.json.printed.get? "remotes" =
      some (.array ((r.manifest.remotes.map Manifest.Remote.json).map Json.printed)) := by
    rw [Json.get?_printed, get?_remotes, Option.map_some, Json.printed, Json.printedItems_eq_map]
  have hurl : ∀ remote : Manifest.Remote,
      remote.json.printed.get? "url" = some (.text remote.url) := by
    intro remote
    rw [Json.get?_printed]
    rfl
  rw [documentUrls, Record.text, Json.Document.ofText_compress]
  simp only [hremotes, List.filterMap_map, Function.comp_def, hurl, List.filterMap_eq_map']
  rfl

/-! ### Documents whose URLs can be looked at -/

variable {row : Row} {r : Record} {f : Filter}

/-- **The URLs of a document cannot be looked at exactly if its bag nests too deep.** -/
theorem isTangled_iff (hdoc : row.document = r.text) : row.isTangled = true ↔ 999 < r.bag.depth := by
  rw [isTangled, decide_eq_true_iff, hdoc, Record.text, Json.Document.ofText_compress]
  show 1000 < r.json.printed.nesting ↔ _
  rw [Json.nesting_printed, ← Nat.not_le, r.depth_json_le_iff (by decide), Nat.not_le]

/-- The URLs of a document can be looked at if its bag is read back. -/
theorem isTangled_of_reread {bag : Bag} (hdoc : row.document = r.text) (hread : r.bag.reread = .ok bag) :
    row.isTangled = false := by
  rw [← Bool.not_eq_true, isTangled_iff hdoc]
  have hdepth := Bag.depth_le_of_reread hread
  omega

/-- The URLs of a document that is read can be looked at. -/
theorem isTangled_of_read {x : Record} (hdoc : row.document = r.text) (hx : row.record? = .ok x) :
    row.isTangled = false := by
  rw [record?_of_document hdoc] at hx
  cases hread : r.bag.reread with
  | error fault =>
      rw [hread] at hx
      cases hx
  | ok bag => exact isTangled_of_reread hdoc hread

theorem shownBy_of_read {x : Record} (hdoc : row.document = r.text) (hx : row.record? = .ok x) :
    row.shownBy f = .ok x := by
  rw [shownBy_of_untangled (isTangled_of_read hdoc hx), hx]

/-- A filter by URL selects the rows whose document lists it or cannot be looked at. -/
theorem selectedBy_remoteUrl (url : String) (row : Row) : row.selectedBy { remoteUrl := some url } =
    (row.isTangled || (documentUrls row.document).contains url) := by
  simp [selectedBy, Filter.holds]

/-! ### Selecting -/

/-- **A filter selects a row if it selects the record**, provided that the URLs can be looked at. -/
theorem selectedBy_ofRecord (hd : r.IsDated) (he : r.InEra) (htangled : (ofRecord r).isTangled = false)
    (hf : ∀ since, f.updatedSince = some since → since.IsReading ∧ since.InEra) :
    (ofRecord r).selectedBy f = f.selects r := by
  have hsince : Filter.holds f.updatedSince
      (fun since => Text.before since.stamp (ofRecord r).updatedAt) =
        Filter.holds f.updatedSince fun since => since.before r.updatedAt := by
    cases hs : f.updatedSince with
    | none => simp only [Filter.holds]
    | some since =>
        obtain ⟨hread, hera⟩ := hf since hs
        have hbefore : Text.before since.stamp r.updatedAt.stamp = since.before r.updatedAt :=
          Instant.before_stamp hera.2 he.updated.2 (.inl hera) hread hd.updated
        simp only [Filter.holds, ofRecord, hbefore]
  have hurls : documentUrls (ofRecord r).document = r.manifest.remoteUrls := documentUrls_text r
  simp only [selectedBy, hsince, hurls, htangled, Bool.false_or]
  rfl

end Row

/-- **A row counts if the record does.** -/
theorem Rows.countsFor_ofRecord {r : Record} {subject : String} {since : Instant} (hd : r.IsDated)
    (he : r.publishedAt.InEra) (hread : since.IsReading) (hyear : since.year ≤ 9999) :
    Rows.countsFor subject since.stamp (Row.ofRecord r) = Memory.countsFor subject since r := by
  have hbefore : Text.before (Row.ofRecord r).publishedAt since.stamp = r.publishedAt.before since :=
    Instant.before_stamp he.2 hyear (.inl he) hd.published hread
  rw [Rows.countsFor, hbefore]
  rfl

end Storage

end ManifestRegistry
