/-
**Records read back.**

The text of a record is read back as the record, but for who published it, which is kept elsewhere,
and for the bag: a bag that holds doubles may come back changed, and one that nests too deep cannot be
read at all.  The bag is the only part that can make a difference.

Main definitions:

* `Bag.reread`, `Bag.readWithin` — what a bag is read back as, also deeper in a document;
* `Bag.Lossless` — a bag that is read back as it is; `Bag.Readable` — one that can be read back
  however often;
* `Bag.Legible` — a bag without doubles and repeated keys that does not nest too deep;
* `Bag.Tame` — a bag without doubles and repeated keys; `Bag.depth` — how deep one nests.

Main results:

* `Registration.reads_json` — a registration is read back;
* `Record.decodeText_text`, `Record.shape_printed` — **what the text of a record is read back as**,
  also where it is part of another;
* `Bag.Legible.lossless` — a legible bag is read back as it is;
* `Bag.depth_le_of_reread`, `Bag.Tame.lossless_iff` — a bag that nests too deep is not read back, and **a
  tame one that does not is read back as it is**;
* `Record.depth_json_le_iff` — a document nests one level deeper than its bag.
-/

import ManifestRegistry.Proofs.Identity.Text
import ManifestRegistry.Proofs.Instant.Format
import ManifestRegistry.Proofs.Json.Depth
import ManifestRegistry.Proofs.Manifest.Legible
import ManifestRegistry.Record.Document

set_option relaxedAutoImplicit false
set_option autoImplicit false

namespace ManifestRegistry

open Shape Shape.Layout
open Json (Lays LegibleEntries printed printedEntries printedEntries_append)

/-! ### Registrations -/

namespace Registration

theorem reads_id (id : Uuid) : Reads uuid 0 (.text id.text) id := reads_parsed id.parse?_text

theorem reads_instant {i : Instant} (h : i.IsReading) : Reads instant 0 (instantJson i) i :=
  reads_parsed (Instant.parse?_text h)

/-- **A registration is read back.** -/
theorem reads_json {r : Registration} (h : r.IsDated) : Reads shape 1 r.json r := by
  obtain ⟨id, published, updated, latest, released⟩ := r
  refine reads (d := ⟨some id, some published, some updated, some latest, released.map some⟩)
    (fun o ho => ?_) ?_
  · have hid : layout.Takes o {} [("id", .text id.text)] { id := some id } :=
      .entry rfl rfl (read_of (reads_id id) ho)
    have hpublished : layout.Takes o { id := some id } [("published_at", instantJson published)]
        { id := some id, publishedAt := some published } :=
      .entry rfl rfl (read_of (reads_instant h.published) ho)
    have hupdated : layout.Takes o { id := some id, publishedAt := some published }
        [("updated_at", instantJson updated)] ⟨some id, some published, some updated, none, none⟩ :=
      .entry rfl rfl (read_of (reads_instant h.updated) ho)
    have hlatest : layout.Takes o ⟨some id, some published, some updated, none, none⟩
        [("is_latest", .bool latest)] ⟨some id, some published, some updated, some latest, none⟩ :=
      .entry rfl rfl (read_of (reads_bool latest) ho)
    have hreleased : layout.Takes o ⟨some id, some published, some updated, some latest, none⟩
        (optionalEntry "release_date" instantJson released)
        ⟨some id, some published, some updated, some latest, released.map some⟩ :=
      .optional rfl rfl (fun h => by rw [h]; rfl) fun i hi => hi ▸
        read_of ((reads_instant (h.released i hi)).optional (fun h => by cases h)) ho
    exact (hid.append (hpublished.append (hupdated.append hlatest))).append hreleased
  · cases released <;> rfl

theorem legible_json (r : Registration) : Json.Legible 1 r.json :=
  (((Lays.text r.id.text).append ((Lays.text r.publishedAt.text).append
    ((Lays.text r.updatedAt.text).append (.bool r.isLatest)))).append
    (.optional fun i _ => show Json.Legible 0 (.text i.text) from trivial)).legible (by decide)

end Registration

/-! ### Bags -/

namespace Bag

/-- A bag that holds no double, repeats no key and does not nest deeper than a document may, itself being
the second container of one. -/
def Legible (bag : Bag) : Prop := Json.Legible 126 (.object bag)

/-- What a bag is read back as; one that is empty is not written at all. -/
def reread (bag : Bag) : Except Fault Bag :=
  if bag.isEmpty then .ok [] else Shape.bag (.text 126) (printed (.object bag))

theorem bagEntries_eq {levels : Nat} (done es : Bag) (hkeys : ((done ++ es).map Prod.fst).Nodup)
    (h : LegibleEntries levels es) :
    Shape.bagEntries (.text levels) done (printedEntries es) = .ok (done ++ es) := by
  -- keys are distinct, so each entry is put behind those that are done
  induction es generalizing done with
  | nil => simp [printedEntries, Shape.bagEntries]
  | cons e es ih =>
      obtain ⟨k, j⟩ := e
      have hwhole : whole (.text levels) (printed j) = .ok j := by
        simp only [whole, Origin.depth, Json.json?_printed levels j h.1]
      have hk : k ∉ done.map Prod.fst := by
        intro hmem
        rw [List.map_append] at hkeys
        exact (List.nodup_append.1 hkeys).2.2 k hmem k (by simp) rfl
      rw [printedEntries, Shape.bagEntries, hwhole]
      simp only [Json.insert_of_not_mem hk]
      rw [ih (done ++ [(k, j)]) (by simpa using hkeys) h.2]
      simp

/-- What a bag is read back as where so many containers may be nested. -/
def readWithin (levels : Nat) (bag : Bag) : Except Fault Bag :=
  if bag.isEmpty then .ok [] else Shape.bag (.text levels) (printed (.object bag))

theorem readWithin_eq {levels : Nat} {bag : Bag} (h : Json.Legible levels (.object bag)) :
    bag.readWithin levels = .ok bag := by
  unfold readWithin
  split
  · rename_i hempty
    rw [List.isEmpty_iff.1 hempty]
  · cases levels with
    | zero => cases h
    | succ levels => exact bagEntries_eq [] bag h.1 h.2

/-- A bag that is read back as it is, whatever doubles it holds. -/
def Lossless (bag : Bag) : Prop := bag.reread = .ok bag

/-- **A legible bag is read back as it is.** -/
theorem Legible.lossless {bag : Bag} (h : bag.Legible) : bag.Lossless := readWithin_eq h

/-- What a bag is read back as after so many times. -/
def rereads : Nat → Bag → Except Fault Bag
  | 0, bag => .ok bag
  | n + 1, bag => bag.reread.bind (rereads n)

/-- A bag that can be read back however often.  A double in it may be read back as a neighbour of what it
was, so one time does not tell of the next. -/
def Readable (bag : Bag) : Prop := ∀ n, ∃ bag', rereads n bag = .ok bag'

/-- What is read of a readable bag is one itself. -/
theorem Readable.reread {bag : Bag} (h : bag.Readable) :
    ∃ bag', bag.reread = .ok bag' ∧ bag'.Readable := by
  cases hread : bag.reread with
  | error e =>
      obtain ⟨bag', hone⟩ := h 1
      simp only [rereads, hread, Except.bind] at hone
      cases hone
  | ok bag₁ =>
      refine ⟨bag₁, rfl, ?_⟩
      intro n
      obtain ⟨bag', hmore⟩ := h (n + 1)
      simp only [rereads, hread, Except.bind] at hmore
      exact ⟨bag', hmore⟩

theorem Lossless.readable {bag : Bag} (h : bag.Lossless) : bag.Readable := by
  intro n
  induction n with
  | zero => exact ⟨bag, rfl⟩
  | succ n ih =>
      obtain ⟨bag', hn⟩ := ih
      have hsame : bag.reread = .ok bag := h
      refine ⟨bag', ?_⟩
      rw [rereads, hsame]
      exact hn

/-- A bag with a double, one and a half. -/
def weights : Bag := [("weight", .number (.float ⟨0x3FF8000000000000⟩))]

theorem lossless_weights : weights.Lossless := by
  have hnumber : Json.reread? ⟨0x3FF8000000000000⟩ = some (.float ⟨0x3FF8000000000000⟩) := by
    decide +kernel
  have hbounded : Binary64.isUnbounded ⟨0x3FF8000000000000⟩ = false := by decide +kernel
  have hnode : Json.Number.node (.float ⟨0x3FF8000000000000⟩) =
      .number (.float ⟨0x3FF8000000000000⟩) := by
    simp only [Json.Number.node, hbounded, hnumber, Bool.false_eq_true, if_false]
  simp only [Lossless, reread, weights, List.isEmpty_cons, Bool.false_eq_true, if_false, printed,
    printedEntries, hnode]
  rfl

/-! How deep a bag nests is all that can keep a tame one from being read back. -/

/-- A bag that holds no double and repeats no key. -/
def Tame (bag : Bag) : Prop := Json.Tame (.object bag)

/-- How many containers are nested in a bag, itself included. -/
def depth (bag : Bag) : Nat := Json.depth (.object bag)

theorem legible_iff {bag : Bag} (h : bag.Tame) : bag.Legible ↔ bag.depth ≤ 126 :=
  Json.legible_iff (.object bag) h

/-- The entries of a bag are not read if one of them nests deeper than the reader goes. -/
theorem bagEntries_of_deep (done es : Bag) (h : 125 < Json.depthEntries es) :
    ∃ fault, Shape.bagEntries (.text 125) done (printedEntries es) = .error fault := by
  induction es generalizing done with
  | nil => exact absurd h (Nat.not_lt_zero _)
  | cons e es ih =>
      obtain ⟨k, j⟩ := e
      rw [printedEntries, Shape.bagEntries]
      cases hread : whole (.text 125) (printed j) with
      | error fault => exact ⟨fault, rfl⟩
      | ok j' =>
          have hhead : ¬125 < Json.depth j := by
            intro hdeep
            simp only [whole, Origin.depth, Json.json?_printed_of_deep 125 j hdeep] at hread
            cases hread
          rw [Json.depthEntries] at h
          exact ih (Json.insert k j' done) (by omega)

/-- A bag that is read back at all does not nest too deep. -/
theorem depth_le_of_reread {bag bag' : Bag} (h : bag.reread = .ok bag') : bag.depth ≤ 126 := by
  refine Nat.not_lt.1 fun hdeep => ?_
  have hentries : 125 < Json.depthEntries bag := Nat.lt_of_succ_lt_succ hdeep
  obtain ⟨fault, hfault⟩ := bagEntries_of_deep [] bag hentries
  unfold reread at h
  split at h
  · rename_i hempty
    rw [List.isEmpty_iff.1 hempty] at hentries
    cases hentries
  · cases hfault.symm.trans h

theorem depthEntries_le_of_bagEntries {levels : Nat} (done : Bag) {ss : List (Json.Source × Json.Source)}
    {es : Bag} (hdone : Json.depthEntries done ≤ levels)
    (h : Shape.bagEntries (.text levels) done ss = .ok es) : Json.depthEntries es ≤ levels := by
  induction ss generalizing done with
  | nil =>
      obtain rfl := Except.ok.inj h
      exact hdone
  | cons s ss ih =>
      obtain ⟨key, s⟩ := s
      cases key with
      | text k =>
          rw [Shape.bagEntries] at h
          cases hread : s.json? levels with
          | none =>
              simp only [whole, Origin.depth, hread] at h
              cases h
          | some j =>
              simp only [whole, Origin.depth, hread] at h
              exact ih _ (Json.depthEntries_insert_le k (Json.depth_le_of_json? levels s hread) hdone) h
      | _ => cases h

/-- What a bag is read back as nests no deeper than the reader goes. -/
theorem depth_reread_le {bag bag' : Bag} (h : bag.reread = .ok bag') : bag'.depth ≤ 126 := by
  unfold reread at h
  split at h
  · obtain rfl := Except.ok.inj h
    decide
  · exact Nat.succ_le_succ (depthEntries_le_of_bagEntries [] (Nat.zero_le _) h)

/-- A tame bag is read back as it is exactly if it does not nest too deep. -/
theorem Tame.lossless_iff {bag : Bag} (h : bag.Tame) : bag.Lossless ↔ bag.depth ≤ 126 :=
  ⟨depth_le_of_reread, fun hdepth => ((legible_iff h).2 hdepth).lossless⟩

end Bag

/-! ### Records -/

namespace Record

variable {d : Draft} {o : Origin}

/-- Entries under keys of the manifest are set aside. -/
theorem readEntries_aside {levels : Nat} {es : List (String × Json)} {keys : List String}
    (hkeys : ∀ k ∈ keys, k ≠ registrationKey ∧ k ≠ bagKey) (h : Lays levels keys es)
    (rest : List (Json.Source × Json.Source)) :
    d.readEntries (.text levels) (printedEntries es ++ rest) =
      Draft.readEntries (.text levels)
        { d with aside := (printedEntries es).reverse ++ d.aside } rest := by
  obtain ⟨hsub, hvalues⟩ := h
  have hmem : ∀ e ∈ es, e.1 ≠ registrationKey ∧ e.1 ≠ bagKey := fun e he =>
    hkeys e.1 (hsub.subset (List.mem_map_of_mem he))
  clear hsub
  induction es generalizing d with
  | nil => rfl
  | cons e es ih =>
      obtain ⟨k, j⟩ := e
      have hentry : d.readEntry (.text levels) (.text k) (printed j) =
          .ok { d with aside := (.text k, printed j) :: d.aside } := by
        have hne := hmem (k, j) List.mem_cons_self
        simp only [Draft.readEntry, hne.1, hne.2, if_false, Draft.setAside, whole, Origin.depth,
          Json.json?_printed levels j hvalues.1]
        rfl
      rw [printedEntries, List.cons_append, Draft.readEntries, hentry]
      simp only
      rw [ih hvalues.2 fun e he => hmem e (List.mem_cons_of_mem _ he)]
      simp

/-- The draft of a record once its entries but the bag are read. -/
def withoutBag (r : Record) : Draft where
  aside := (printedEntries r.manifest.entries).reverse
  registration := some r.registration

/-- The entries of a manifest are not those of a registration or a bag. -/
theorem manifest_keys : ∀ k ∈ Manifest.keys, k ≠ registrationKey ∧ k ≠ bagKey := by
  decide

/-- The entries of the manifest and the registration, and what follows. -/
theorem readEntries_withoutBag {r : Record} (h : r.IsDated) {levels : Nat} (hlevels : 4 ≤ levels)
    (rest : List (Json.Source × Json.Source)) :
    ({} : Draft).readEntries (.text levels)
      (printedEntries (r.manifest.entries ++ [(registrationKey, r.registration.json)]) ++ rest) =
      r.withoutBag.readEntries (.text levels) rest := by
  have hlays : Lays levels Manifest.keys r.manifest.entries :=
    ⟨r.manifest.lays_entries.keys, r.manifest.lays_entries.values.mono _ hlevels⟩
  have hreg : Registration.shape (.text levels) (printed r.registration.json) =
      .ok r.registration :=
    Registration.reads_json h (.text levels) (by show 1 ≤ levels; omega)
  rw [printedEntries_append, List.append_assoc, readEntries_aside manifest_keys hlays]
  simp only [printedEntries, List.cons_append, List.nil_append, Draft.readEntries, Draft.readEntry,
    Option.isSome_none, Bool.false_eq_true, if_false, if_true, hreg, Except.map]
  simp [withoutBag]

theorem finish_withoutBag (r : Record) (bag : Option Bag) :
    ({ r.withoutBag with bag } : Draft).finish =
      .ok { manifest := r.manifest, registration := r.registration, bag := bag.getD [] } := by
  simp only [Draft.finish, withoutBag, need, List.reverse_reverse, bind, Except.bind,
    r.manifest.ofEntries_entries (o := .aside) trivial]

/-- What the document of a record is read back as, wherever it stands: the record, with the bag read
back and without the publisher. -/
theorem shape_printed {r : Record} (h : r.IsDated) {levels : Nat} (hlevels : 4 ≤ levels) :
    shape (.text (levels + 1)) (printed r.json) = (r.bag.readWithin levels).map fun bag =>
      { manifest := r.manifest, registration := r.registration, bag } := by
  have hkey : bagKey ≠ registrationKey := by decide
  have henter : (Origin.text (levels + 1)).enter = .ok (.text levels) := rfl
  simp only [json, entries, printed, shape, henter, bind, Except.bind, Bag.readWithin]
  by_cases hempty : r.bag.isEmpty = true
  · have hrest := readEntries_withoutBag h hlevels []
    rw [List.append_nil] at hrest
    simp only [hempty, if_true, List.append_nil, hrest, Draft.readEntries]
    exact r.finish_withoutBag none
  · have hnone : r.withoutBag.bag.isSome = false := rfl
    rw [if_neg hempty, if_neg hempty, printedEntries_append, readEntries_withoutBag h hlevels]
    simp only [printedEntries, printed, Draft.readEntries, Draft.readEntry, hkey, if_false, if_true,
      hnone, Bool.false_eq_true]
    cases hbag : Shape.bag (.text levels) (.object (printedEntries r.bag)) with
    | error e => rfl
    | ok b => exact r.finish_withoutBag (some b)

/-- **What the text of a record is read back as**: the record, with the bag read back and without the
publisher. -/
theorem decodeText_text {r : Record} (h : r.IsDated) :
    decodeText shape r.text = r.bag.reread.map fun bag =>
      { manifest := r.manifest, registration := r.registration, bag } := by
  rw [text, decodeText_compress]
  exact shape_printed h (by omega)

theorem decodeText_of_deep {r : Record} (h : r.IsDated) (hdeep : 126 < r.bag.depth) :
    ∃ fault, decodeText shape r.text = .error fault := by
  rw [decodeText_text h]
  cases hbag : r.bag.reread with
  | error fault => exact ⟨fault, rfl⟩
  | ok bag => exact absurd (Bag.depth_le_of_reread hbag) (Nat.not_le.2 hdeep)

/-- A document nests one level deeper than its bag, unless the manifest nests deeper than that. -/
theorem depth_json_le_iff (r : Record) {n : Nat} (hn : 4 ≤ n) :
    Json.depth r.json ≤ n + 1 ↔ r.bag.depth ≤ n := by
  have hmanifest : Json.depthEntries r.manifest.entries ≤ n :=
    Nat.le_trans (Json.depthEntries_le_of_legible _ r.manifest.lays_entries.values) hn
  have hreg : Json.depth r.registration.json ≤ n :=
    Nat.le_trans (Json.depth_le_of_legible _ r.registration.legible_json) (by omega)
  rw [json, Json.depth, Nat.add_le_add_iff_right, Json.depthEntries_le, entries, List.forall_mem_append,
    List.forall_mem_append, List.forall_mem_singleton, ← Json.depthEntries_le]
  by_cases hempty : r.bag.isEmpty = true
  · have hdepth : r.bag.depth = 1 := by
      rw [List.isEmpty_iff.1 hempty]
      rfl
    simp only [hempty, if_true]
    refine ⟨fun _ => by omega, fun _ => ⟨⟨hmanifest, hreg⟩, fun e he => absurd he List.not_mem_nil⟩⟩
  · rw [if_neg hempty, List.forall_mem_singleton]
    exact ⟨fun h => h.2, fun h => ⟨⟨hmanifest, hreg⟩, h⟩⟩

end Record

end ManifestRegistry
