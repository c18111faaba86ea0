/-
**Documents that are read back as JSON.**

The documents of manifests hold no numbers at all, and no key stands twice in them, so they are read
back not only as manifests but as the JSON they are.

Main definitions:

* `Json.Lays` — entries with legible values under keys from a list.

Main results:

* `Json.Lays.legible` — such entries make a legible object, if no key is listed twice;
* `Manifest.lays_entries` — **the entries of a manifest are legible**.
-/

import ManifestRegistry.Proofs.Manifest.Document

set_option relaxedAutoImplicit false
set_option autoImplicit false

namespace ManifestRegistry

namespace Json

/-- Entries with legible values under some of the keys of a list, in their order. -/
structure Lays (depth : Nat) (keys : List String) (es : List (String × Json)) : Prop where
  keys : (es.map Prod.fst).Sublist keys
  values : LegibleEntries depth es

namespace Lays

variable {α : Type} {depth : Nat} {key : String} {keys keys' : List String} {json : α → Json}
  {es fs : List (String × Json)}

theorem append (h : Lays depth keys es) (h' : Lays depth keys' fs) :
    Lays depth (keys ++ keys') (es ++ fs) where
  keys := by
    rw [List.map_append]
    exact h.keys.append h'.keys
  values := by
    rw [legibleEntries_iff]
    intro e he
    rcases List.mem_append.1 he with he | he
    · exact legibleEntries_iff.1 h.values e he
    · exact legibleEntries_iff.1 h'.values e he

theorem entry {j : Json} (h : Legible depth j) : Lays depth [key] [(key, j)] :=
  ⟨List.Sublist.refl _, h, trivial⟩

theorem optional {value : Option α} (h : ∀ a, value = some a → Legible depth (json a)) :
    Lays depth [key] (optionalEntry key json value) := by
  cases value with
  | none => exact ⟨List.nil_sublist _, trivial⟩
  | some a => exact entry (h a rfl)

theorem text (s : String) : Lays depth [key] [(key, .text s)] := entry trivial

theorem bool (b : Bool) : Lays depth [key] [(key, .bool b)] := entry trivial

theorem optionalText (value : Option String) : Lays depth [key] (optionalEntry key .text value) :=
  optional fun _ _ => trivial

theorem legible_items {items : List α} (h : ∀ a ∈ items, Legible depth (json a)) :
    Legible (depth + 1) (.array (items.map json)) := by
  rw [Legible, legibleItems_iff]
  intro j hj
  obtain ⟨a, ha, rfl⟩ := List.mem_map.1 hj
  exact h a ha

theorem array {items : List α} (h : ∀ a ∈ items, Legible depth (json a)) :
    Lays (depth + 1) [key] [(key, .array (items.map json))] := entry (legible_items h)

theorem list {items : List α} (h : ∀ a ∈ items, Legible depth (json a)) :
    Lays (depth + 1) [key] (listEntry key json items) := by
  cases items with
  | nil => exact ⟨List.nil_sublist _, trivial⟩
  | cons a as => exact array h

/-- **Such entries make a legible object**, if no key is listed twice. -/
theorem legible (h : Lays depth keys es) (hkeys : keys.Nodup) : Legible (depth + 1) (.object es) := by
  rw [Legible]
  exact ⟨hkeys.sublist h.keys, h.values⟩

end Lays

end Json

open Json (Legible Lays)

namespace Manifest

theorem Repository.legible_json (r : Repository) : Legible 1 r.json :=
  ((((Lays.text r.url).append (.text r.source)).append (.optionalText r.id)).append
    (.optionalText r.subfolder)).legible (by decide)

theorem Input.legible_json (i : Input) : Legible 1 i.json :=
  ((((Lays.text i.name).append (.optionalText i.description)).append
    (.optionalText i.value)).append ((Lays.bool i.isRequired).append (.bool i.isSecret))).legible
    (by decide)

theorem PackageTransport.legible_json (t : PackageTransport) : Legible 1 t.json :=
  ((Lays.text t.kind.name).append (.optionalText t.url)).legible (by decide)

theorem Package.legible_json (p : Package) : Legible 3 p.json :=
  ((((((((Lays.text p.registryType).append (.optionalText p.registryBaseUrl)).append
    (.text p.identifier)).append (.optionalText p.version)).append
    (.optionalText p.fileSha256)).append (.optionalText p.runtimeHint)).append
    (.entry (p.transport.legible_json.mono _ (by omega)))).append
    (.list fun i _ => i.legible_json)).legible (by decide)

theorem Remote.legible_json (r : Remote) : Legible 3 r.json :=
  (((Lays.text r.kind.name).append (.text r.url)).append
    (.list fun i _ => i.legible_json)).legible (by decide)

/-- The keys of a manifest's document. -/
def keys : List String :=
  ["name", "description", "status", "repository", "version", "website_url", "packages", "remotes"]

/-- **The entries of a manifest are legible.** -/
theorem lays_entries (m : Manifest) : Lays 4 keys m.entries :=
  (((((Lays.text m.name).append ((Lays.text m.description).append (.text m.status.name))).append
    (.optional fun r _ => r.legible_json.mono _ (by omega))).append (.text m.version)).append
    (.optionalText m.websiteUrl)).append
    ((Lays.array fun p _ => p.legible_json).append (.array fun r _ => r.legible_json))

end Manifest

end ManifestRegistry
