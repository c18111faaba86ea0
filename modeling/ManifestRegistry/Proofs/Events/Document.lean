/-
**What is stored and told is read back.**

The document of an event names its kind first; the reader sets everything else aside and reads it once
it knows the kind.  Nothing that an event tells is lost on the way, but that an instant is read back as
one that a clock can show.  With that, all documents that the registry writes are read back: manifests,
records, pages of records and events.

Main definitions:

* `Event.Kind.keys` — the keys behind the kind of an event;
* `Event.told` — an event as its document tells it;
* `Event.IsDated` — an event whose instants a clock can show.

Main results:

* `Event.lays_details`, `Event.readEntries_aside` — what is set aside while the kind is looked for;
* `Event.reads_details` — what stands behind the kind is read back;
* `Event.decodeText_json` — an event is read back from its text;
* `documents_read_back` — **what is stored and told is read back**.
-/

import ManifestRegistry.Event
import ManifestRegistry.Proofs.Paging.Document

set_option relaxedAutoImplicit false
set_option autoImplicit false

namespace ManifestRegistry

open Shape Shape.Layout
open Json (Lays printed printedEntries)
open Registration (reads_id reads_instant)

namespace Event

/-! ### The kind and what is set aside -/

/-- The keys of what stands behind the kind of an event. -/
def Kind.keys : Kind → List String
  | published => ["server_id", "name", "version", "is_latest", "published_by", "published_at"]
  | latestChanged => ["server_id", "name", "previous_version", "current_version"]
  | edited => ["server_id", "name", "version", "edited_by"]

/-- None of them is that of the kind. -/
theorem Kind.kindKey_notMem_keys (k : Kind) : kindKey ∉ k.keys := by
  cases k <;> decide

/-- **What stands behind the kind of an event is legible**: it holds no containers. -/
theorem lays_details (e : Event) {levels : Nat} : Lays levels e.kind.keys e.details := by
  cases e with
  | published serverId name version isLatest publishedBy publishedAt =>
      exact (Lays.text serverId.text).append ((Lays.text name).append ((Lays.text version).append
        ((Lays.bool isLatest).append ((Lays.text publishedBy).append (.text publishedAt.text)))))
  | latestChanged serverId name previous current =>
      exact (((Lays.text serverId.text).append (.text name)).append (.optionalText previous)).append
        (.text current)
  | edited serverId name version editedBy =>
      exact (Lays.text serverId.text).append ((Lays.text name).append ((Lays.text version).append
        (.text editedBy)))

/-- Entries under other keys than that of the kind are set aside. -/
theorem readEntries_aside {levels : Nat} {es : List (String × Json)} {keys : List String}
    (hkeys : kindKey ∉ keys) (h : Lays levels keys es) (d : Draft) :
    d.readEntries (.text levels) (printedEntries es) =
      .ok { d with aside := (printedEntries es).reverse ++ d.aside } := by
  obtain ⟨hsub, hvalues⟩ := h
  have hmem : ∀ e ∈ es, e.1 ≠ kindKey := fun e he hkey =>
    hkeys (hkey ▸ hsub.subset (List.mem_map_of_mem he))
  clear hsub
  induction es generalizing d with
  | nil => rfl
  | cons e es ih =>
      obtain ⟨k, j⟩ := e
      have hentry : d.readEntry (.text levels) (.text k) (printed j) =
          .ok { d with aside := (.text k, printed j) :: d.aside } := by
        have hne : k ≠ kindKey := hmem (k, j) List.mem_cons_self
        simp only [Draft.readEntry, hne, if_false, whole, Origin.depth,
          Json.json?_printed levels j hvalues.1]
        rfl
      rw [printedEntries, Draft.readEntries, hentry]
      simp only
      rw [ih _ hvalues.2 fun e he => hmem e (List.mem_cons_of_mem _ he)]
      simp

/-- An event is read as its kind, and then as what stands behind it. -/
theorem shape_printed (e : Event) (levels : Nat) :
    shape (.text (levels + 1)) (printed e.json) =
      detailsShape e.kind .aside (printed (.object e.details)) := by
  have henter : (Origin.text (levels + 1)).enter = .ok (.text levels) := rfl
  have hkind : ({} : Draft).readEntry (.text levels) (.text kindKey) (printed (.text e.kind.name)) =
      .ok { kind := some e.kind } := by
    simp only [Draft.readEntry, if_true, Option.isSome_none, Bool.false_eq_true, if_false, printed,
      named, e.kind.lookup_name]
    rfl
  have hentries : ({} : Draft).readEntries (.text levels)
      (printedEntries ((kindKey, .text e.kind.name) :: e.details)) =
      .ok { kind := some e.kind, aside := (printedEntries e.details).reverse } := by
    rw [printedEntries, Draft.readEntries, hkind]
    simp only
    rw [readEntries_aside e.kind.kindKey_notMem_keys e.lays_details, List.append_nil]
  simp only [json, printed, shape, henter, bind, Except.bind, hentries, need, List.reverse_reverse]

/-! ### What stands behind the kind -/

/-- An event whose instants a clock can show. -/
def IsDated : Event → Prop
  | published _ _ _ _ _ publishedAt => publishedAt.IsReading
  | latestChanged .. | edited .. => True

theorem reads_published {publishedAt : Instant} (h : publishedAt.IsReading) (serverId : Uuid)
    (name version : String) (isLatest : Bool) (publishedBy : String) :
    Reads publishedLayout.shape 1
      (.object (published serverId name version isLatest publishedBy publishedAt).details)
      (published serverId name version isLatest publishedBy publishedAt) := by
  refine reads (d := ⟨some serverId, some name, some version, some isLatest, some publishedBy,
    some publishedAt⟩) (fun o ho => ?_) rfl
  have hid : publishedLayout.Takes o {} [("server_id", .text serverId.text)]
      { serverId := some serverId } :=
    .entry rfl rfl (read_of (reads_id serverId) ho)
  have hname : publishedLayout.Takes o { serverId := some serverId } [("name", .text name)]
      { serverId := some serverId, name := some name } :=
    .entry rfl rfl (read_of (reads_string name) ho)
  have hversion : publishedLayout.Takes o { serverId := some serverId, name := some name }
      [("version", .text version)] ⟨some serverId, some name, some version, none, none, none⟩ :=
    .entry rfl rfl (read_of (reads_string version) ho)
  have hlatest : publishedLayout.Takes o ⟨some serverId, some name, some version, none, none, none⟩
      [("is_latest", .bool isLatest)]
      ⟨some serverId, some name, some version, some isLatest, none, none⟩ :=
    .entry rfl rfl (read_of (reads_bool isLatest) ho)
  have hby : publishedLayout.Takes o
      ⟨some serverId, some name, some version, some isLatest, none, none⟩
      [("published_by", .text publishedBy)]
      ⟨some serverId, some name, some version, some isLatest, some publishedBy, none⟩ :=
    .entry rfl rfl (read_of (reads_string publishedBy) ho)
  have hat : publishedLayout.Takes o
      ⟨some serverId, some name, some version, some isLatest, some publishedBy, none⟩
      [("published_at", Registration.instantJson publishedAt)]
      ⟨some serverId, some name, some version, some isLatest, some publishedBy, some publishedAt⟩ :=
    .entry rfl rfl (read_of (reads_instant h) ho)
  exact hid.append (hname.append (hversion.append (hlatest.append (hby.append hat))))

theorem reads_latestChanged (serverId : Uuid) (name : String) (previous : Option String)
    (current : String) :
    Reads latestChangedLayout.shape 1
      (.object (latestChanged serverId name previous current).details)
      (latestChanged serverId name previous current) := by
  refine reads (d := ⟨some serverId, some name, previous.map some, some current⟩)
    (fun o ho => ?_) (by cases previous <;> rfl)
  have hid : latestChangedLayout.Takes o {} [("server_id", .text serverId.text)]
      { serverId := some serverId } :=
    .entry rfl rfl (read_of (reads_id serverId) ho)
  have hname : latestChangedLayout.Takes o { serverId := some serverId } [("name", .text name)]
      { serverId := some serverId, name := some name } :=
    .entry rfl rfl (read_of (reads_string name) ho)
  have hprevious : latestChangedLayout.Takes o { serverId := some serverId, name := some name }
      (optionalEntry "previous_version" .text previous)
      ⟨some serverId, some name, previous.map some, none⟩ :=
    .optional rfl rfl (fun h => by rw [h]; rfl)
      fun s h => h ▸ read_of ((reads_string s).optional (fun h => by cases h)) ho
  have hcurrent : latestChangedLayout.Takes o ⟨some serverId, some name, previous.map some, none⟩
      [("current_version", .text current)]
      ⟨some serverId, some name, previous.map some, some current⟩ :=
    .entry rfl rfl (read_of (reads_string current) ho)
  exact ((hid.append hname).append hprevious).append hcurrent

theorem reads_edited (serverId : Uuid) (name version editedBy : String) :
    Reads editedLayout.shape 1 (.object (edited serverId name version editedBy).details)
      (edited serverId name version editedBy) := by
  refine reads (d := ⟨some serverId, some name, some version, some editedBy⟩) (fun o ho => ?_) rfl
  have hid : editedLayout.Takes o {} [("server_id", .text serverId.text)]
      { serverId := some serverId } :=
    .entry rfl rfl (read_of (reads_id serverId) ho)
  have hname : editedLayout.Takes o { serverId := some serverId } [("name", .text name)]
      { serverId := some serverId, name := some name } :=
    .entry rfl rfl (read_of (reads_string name) ho)
  have hversion : editedLayout.Takes o { serverId := some serverId, name := some name }
      [("version", .text version)] ⟨some serverId, some name, some version, none⟩ :=
    .entry rfl rfl (read_of (reads_string version) ho)
  have hby : editedLayout.Takes o ⟨some serverId, some name, some version, none⟩
      [("edited_by", .text editedBy)] ⟨some serverId, some name, some version, some editedBy⟩ :=
    .entry rfl rfl (read_of (reads_string editedBy) ho)
  exact hid.append (hname.append (hversion.append hby))

/-- **What stands behind the kind of a dated event is read back**, the kind being known. -/
theorem reads_details {e : Event} (h : e.IsDated) :
    Reads (detailsShape e.kind) 1 (.object e.details) e := by
  cases e with
  | published serverId name version isLatest publishedBy publishedAt =>
      exact reads_published h serverId name version isLatest publishedBy
  | latestChanged serverId name previous current =>
      exact reads_latestChanged serverId name previous current
  | edited serverId name version editedBy => exact reads_edited serverId name version editedBy

/-! ### Events -/

/-- An event as its document tells it: with instants that a clock can show. -/
def told : Event → Event
  | published serverId name version isLatest publishedBy publishedAt =>
    published serverId name version isLatest publishedBy publishedAt.settled
  | latestChanged serverId name previous current => latestChanged serverId name previous current
  | edited serverId name version editedBy => edited serverId name version editedBy

theorem told_of_isDated {e : Event} (h : e.IsDated) : e.told = e := by
  cases e with
  | published => exact congrArg _ (Instant.settled_of_isReading h)
  | latestChanged | edited => rfl

theorem isDated_told (e : Event) : e.told.IsDated := by
  cases e with
  | published _ _ _ _ _ publishedAt => exact publishedAt.isReading_settled
  | latestChanged | edited => trivial

theorem json_told (e : Event) : e.told.json = e.json := by
  cases e with
  | published =>
      simp only [told, json, kind, details, Registration.instantJson, Instant.text_settled]
  | latestChanged | edited => rfl

/-- **An event is read back from its text.** -/
theorem decodeText_json (e : Event) : decodeText shape e.json.compress = .ok e.told := by
  rw [← e.json_told, decodeText_compress]
  show shape (.text (126 + 1)) _ = _
  rw [shape_printed]
  exact reads_details e.isDated_told .aside trivial

end Event

/-- **What is stored and told is read back.**  A manifest and an event are always read back from their
texts; a record and a page of records are if their bags hold no doubles and they nest no deeper than a
text may, but for who published the records.  What is read back is the value itself if its instants are
such as a clock can show. -/
theorem documents_read_back :
    (∀ m : Manifest, decodeText Manifest.shape m.json.compress = .ok m) ∧
      (∀ r : Record, r.bag.Tame → Json.depth r.json ≤ Json.nestingLimit →
        decodeText Record.shape r.text = .ok r.told ∧
          (r.IsDated → r.told = { r with publishedBy := none })) ∧
      (∀ p : Page Record, (∀ r ∈ p.items, r.bag.Tame) → Json.depth p.json ≤ Json.nestingLimit →
        decodeText Page.shape p.json.compress = .ok p.told ∧
          ((∀ r ∈ p.items, r.IsDated) →
            p.told = { p with items := p.items.map fun r => { r with publishedBy := none } })) ∧
      ∀ e : Event, decodeText Event.shape e.json.compress = .ok e.told ∧ (e.IsDated → e.told = e) := by
  refine ⟨fun m => m.reads_json.decodeText (by decide), fun r htame hdepth => ?_,
    fun p htame hdepth => ?_, fun e => ⟨e.decodeText_json, Event.told_of_isDated⟩⟩
  · exact ⟨Record.decodeText_json htame hdepth, Record.told_of_isDated⟩
  · refine ⟨Page.decodeText_json htame hdepth, fun hdated => ?_⟩
    rw [Page.told]
    congr 1
    exact List.map_congr_left fun r hr => Record.told_of_isDated (hdated r hr)

namespace Specimen

/-- A manifest with everything in it that may be left out. -/
def manifest : Manifest where
  name := "a/b"
  description := "\x22quoted\x22"
  status := .deprecated
  repository := some { url := "https://h/r", source := "github", id := some "1" }
  version := "1.0.0"
  websiteUrl := some "https://h"
  packages := [{
    registryType := "npm"
    registryBaseUrl := some "https://r"
    identifier := "p"
    version := some "1"
    fileSha256 := some "0"
    runtimeHint := some "npx"
    transport := { kind := .sse, url := some "https://t" }
    environmentVariables := [{ name := "N", value := some "", isSecret := true }] }]
  remotes := [{ kind := .streamableHttp, url := "https://e", headers := [{ name := "H" }] }]

/-- The middle of a leap second. -/
def leap : Instant := (Instant.ofParts? 59 1500000000).getD .epoch

/-- A record with a nested bag and with a publisher. -/
def record : Record where
  manifest := manifest
  registration := { Registration.new ⟨1⟩ leap true with releaseDate := none }
  bag := [("k", .array [.object [("", .number (.integer ⟨-1, by decide, by decide⟩)), ("n", .null)]]),
    ("l", .bool false)]
  publishedBy := some "alice"

/-- A page that may be gone on with. -/
def page : Page Record := ⟨[record, { record with bag := [] }], some "MQ"⟩

/-- A change of the latest version of a server that had none. -/
def event : Event := .latestChanged ⟨1⟩ "a/b" none "1.0.0"

end Specimen

open Specimen

/-- All of these are read back, the records without their publisher. -/
theorem documents_read_back_specimen :
    decodeText Manifest.shape manifest.json.compress = .ok manifest ∧
      (record.bag.Tame ∧ Json.depth record.json ≤ Json.nestingLimit ∧ record.IsDated) ∧
      decodeText Record.shape record.text = .ok { record with publishedBy := none } ∧
      decodeText Page.shape page.json.compress = .ok { page with
        items := [{ record with publishedBy := none },
          { record with bag := [], publishedBy := none }] } ∧
      decodeText Event.shape event.json.compress = .ok event := by
  obtain ⟨hmanifests, hrecords, hpages, hevents⟩ := documents_read_back
  have htame : record.bag.Tame := by
    simp [Bag.Tame, record, Json.Tame, Json.TameItems, Json.TameEntries]
  have hdated : record.IsDated := ⟨by decide, by decide, fun i hi => by cases hi⟩
  have hdepth : Json.depth record.json ≤ Json.nestingLimit := by decide +kernel
  have hitem : ∀ r ∈ page.items, r = record ∨ r = { record with bag := [] } := by
    intro r hr
    simpa [page] using hr
  have hpagetame : ∀ r ∈ page.items, r.bag.Tame := by
    intro r hr
    rcases hitem r hr with rfl | rfl
    · exact htame
    · exact ⟨List.nodup_nil, trivial⟩
  have hpagedated : ∀ r ∈ page.items, r.IsDated := by
    intro r hr
    rcases hitem r hr with rfl | rfl <;> exact hdated
  obtain ⟨hrecord, hwithout⟩ := hrecords record htame hdepth
  obtain ⟨hpage, hitems⟩ := hpages page hpagetame (by decide +kernel)
  obtain ⟨hevent, hsame⟩ := hevents event
  refine ⟨hmanifests manifest, ⟨htame, hdepth, hdated⟩, ?_, ?_, ?_⟩
  · rw [hrecord, hwithout hdated]
  · rw [hpage, hitems hpagedated]
    rfl
  · rw [hevent, hsame trivial]

end ManifestRegistry
