/-
**What belongs to some names and what does not.**

Some people deal with some names, under some identities, as some subjects and with some URLs.  A store is
divided if each of its records belongs to their realm by its name and by its identity, or has nothing to do
with it in any respect.  Then whatever concerns the realm comes to the same in the whole store and in the part
of it that belongs to the realm, and whatever does not leaves that part alone; the store stays divided.

Main definitions:

* `Storage.Realm` — names, identities, subjects and URLs; `Storage.Realm.Owns`, `Storage.Realm.Avoids` —
  records that belong to a realm, and that have nothing to do with it;
* `Storage.Realm.Confined`, `Storage.Realm.Foreign` — calls that concern a realm only, and writes that do not
  concern it;
* `Storage.Divisible` — **a store of which a realm sees its part only**;
* `Storage.Extract` — a store that is that part of another one.

Main results:

* the list store and the table are divisible.
-/

import ManifestRegistry.Proofs.Records.Settled
import ManifestRegistry.Proofs.Service.Passing
import ManifestRegistry.Proofs.Storage.Cabinet
import ManifestRegistry.Proofs.Storage.Parts

set_option relaxedAutoImplicit false
set_option autoImplicit false

namespace ManifestRegistry

namespace Storage

/-- What some people deal with, and the bags that others may bring. -/
structure Realm where
  names : List String
  ids : Uuid → Prop
  subjects : String → Prop
  urls : String → Prop
  bags : Bag → Prop

namespace Realm

variable {R : Realm} {r s record : Record} {id : Uuid} {version : String} {filter : Filter}

/-- A record that belongs to a realm. -/
structure Owns (R : Realm) (r : Record) : Prop where
  name : r.name ∈ R.names
  id : R.ids r.id

/-- A record that has nothing to do with a realm, with a bag that it may have. -/
structure Avoids (R : Realm) (r : Record) : Prop where
  name : r.name ∉ R.names
  id : ¬R.ids r.id
  publisher : ∀ subject, r.publishedBy = some subject → ¬R.subjects subject
  urls : ∀ url ∈ r.manifest.remoteUrls, ¬R.urls url
  bag : R.bags r.bag

/-- A record that belongs to a realm or has nothing to do with it. -/
def Sorted (R : Realm) (r : Record) : Prop := R.Owns r ∨ R.Avoids r

theorem Owns.of_eq (h : R.Owns r) (hmanifest : s.manifest = r.manifest) (hid : s.id = r.id) : R.Owns s where
  name := by
    show s.manifest.name ∈ R.names
    rw [hmanifest]
    exact h.name
  id := hid ▸ h.id

/-- A record has nothing to do with a realm if another one has not that is like it in all that matters. -/
theorem Avoids.of_eq (h : R.Avoids r) (hmanifest : s.manifest = r.manifest) (hid : s.id = r.id)
    (hpublisher : s.publishedBy = r.publishedBy) (hbag : R.bags s.bag) : R.Avoids s where
  name := by
    show s.manifest.name ∉ R.names
    rw [hmanifest]
    exact h.name
  id := hid ▸ h.id
  publisher := hpublisher ▸ h.publisher
  urls := hmanifest ▸ h.urls
  bag := hbag

theorem Sorted.owns_of_id (h : R.Sorted r) (hid : R.ids r.id) : R.Owns r :=
  h.resolve_right fun hno => hno.id hid

theorem Sorted.avoids_of_id (h : R.Sorted r) (hid : ¬R.ids r.id) : R.Avoids r :=
  h.resolve_left fun hown => hid hown.id

theorem Sorted.owns_of_name (h : R.Sorted r) (hname : r.name ∈ R.names) : R.Owns r :=
  h.resolve_right fun hno => hno.name hname

theorem Sorted.owns_of_isVersion (h : R.Sorted r) (hv : r.isVersion id version = true) (hid : R.ids id) :
    R.Owns r :=
  h.owns_of_id ((Record.isVersion_iff.1 hv).1 ▸ hid)

theorem Sorted.avoids_of_isVersion (h : R.Sorted r) (hv : r.isVersion id version = true)
    (hid : ¬R.ids id) : R.Avoids r :=
  h.avoids_of_id ((Record.isVersion_iff.1 hv).1 ▸ hid)

/-- Filters that select only what belongs to a realm. -/
inductive Lists (R : Realm) : Filter → Prop
  | named {name : String} (h : name ∈ R.names) : Lists R { name := some name }
  | linked {url : String} (h : R.urls url) : Lists R { remoteUrl := some url }

theorem Sorted.owns_of_selects (h : R.Sorted r) (hf : R.Lists filter) (hsel : filter.selects r = true) :
    R.Owns r := by
  cases hf with
  | named hname =>
      rw [selects_name] at hsel
      exact h.owns_of_name (of_decide_eq_true hsel ▸ hname)
  | linked hurl =>
      rw [selects_remoteUrl] at hsel
      exact h.resolve_right fun hno => hno.urls _ (List.contains_iff_mem.1 hsel) hurl

/-- Calls that concern a realm only; listings are not among them. -/
inductive Confined (R : Realm) : Call → Prop
  | getById {id : Uuid} (h : R.ids id) : Confined R (.getById id)
  | getVersion {id : Uuid} (version : String) (h : R.ids id) : Confined R (.getVersion id version)
  | countRecent {subject : String} (hours : Nat) (h : R.subjects subject) :
      Confined R (.countRecent subject hours)
  | commit {record : Record} {previous : Option Record} (h : R.Owns record)
      (hp : ∀ p, previous = some p → R.Owns p) : Confined R (.commit record previous)
  | update {id : Uuid} {record : Record} (hid : R.ids id) (h : R.Owns record) :
      Confined R (.update id record)

/-- Writes that do not concern a realm. -/
inductive Foreign (R : Realm) : Call → Prop
  | commit {record : Record} {previous : Option Record} (h : R.Avoids record)
      (hp : ∀ p, previous = some p → R.Avoids p) : Foreign R (.commit record previous)
  | update {id : Uuid} {record : Record} (hid : ¬R.ids id) (h : R.Avoids record) :
      Foreign R (.update id record)

end Realm

/-- A store of which a realm sees its part only. -/
class Divisible (σ : Type) [Store σ] [Catalog σ] where
  /-- What is stored under some names. -/
  part : List String → σ → σ
  /-- The store is open, and each of its records belongs to a realm or has nothing to do with it. -/
  Divided : Realm → σ → Prop
  isOpen {R : Realm} {s : σ} (h : Divided R s) : Catalog.IsOpen s
  calm {R : Realm} {s : σ} (h : Divided R s) (hfew : Store.size s ≤ Cursor.limit) : Catalog.Calm s
  divided_part {R : Realm} {s : σ} (h : Divided R s) : Divided R (part R.names s)
  size_part (names : List String) (s : σ) : Store.size (part names s) ≤ Store.size s
  listed {R : Realm} {s : σ} (h : Divided R s) {filter : Filter} (hf : R.Lists filter) :
    (Catalog.selected (part R.names s) filter).map Prod.snd = (Catalog.selected s filter).map Prod.snd
  /-- What is shown of a name belongs to a realm if the name does. -/
  shown {R : Realm} {s : σ} (h : Divided R s) {name : String} {n : Nat} {x : Record}
    (hx : (n, .ok x) ∈ Catalog.selected s { name := some name }) :
    name ∈ R.names ∧ R.Owns x ∨ name ∉ R.names ∧ R.Avoids x
  /-- What is found under an identity belongs to a realm if the identity does. -/
  found {R : Realm} {s : σ} (h : Divided R s) {id : Uuid} {version : String} {now : Instant} {x : Record}
    (hx : (Store.call (.getVersion id version) now s).1 = .ok (some x)) :
    R.ids id ∧ R.Owns x ∨ ¬R.ids id ∧ R.Avoids x
  confined {R : Realm} {s : σ} (h : Divided R s) {c : Call} (hc : R.Confined c) (now : Instant) :
    Store.call c now (part R.names s) = ((Store.call c now s).1, part R.names (Store.call c now s).2) ∧
      Divided R (Store.call c now s).2
  foreign {R : Realm} {s : σ} (h : Divided R s) {c : Call} (hc : R.Foreign c) (now : Instant) :
    part R.names (Store.call c now s).2 = part R.names s ∧ Divided R (Store.call c now s).2

/-- A store that is the part of a divided one that belongs to a realm. -/
structure Extract {σ : Type} [Store σ] [Catalog σ] [Divisible σ] (R : Realm) (t s : σ) : Prop where
  part : t = Divisible.part R.names s
  divided : Divisible.Divided R s

section

variable {σ : Type} [Store σ] [Catalog σ] [Divisible σ] {R : Realm} {t s : σ}

theorem Extract.divided_left (h : Extract R t s) : Divisible.Divided R t :=
  h.part ▸ Divisible.divided_part h.divided

theorem Extract.size_le (h : Extract R t s) : Store.size t ≤ Store.size s := by
  rw [h.part]
  exact Divisible.size_part R.names s

/-- Listings of what belongs to a realm differ in numbers only. -/
theorem Extract.listed (h : Extract R t s) {filter : Filter} (hf : R.Lists filter) :
    (Catalog.selected t filter).map Prod.snd = (Catalog.selected s filter).map Prod.snd := by
  rw [h.part]
  exact Divisible.listed h.divided hf

/-- **A call that concerns a realm only is answered in the same way**, and leaves an extract. -/
theorem Extract.confined (h : Extract R t s) {c : Call} (hc : R.Confined c) (now : Instant) :
    (Store.call c now t).1 = (Store.call c now s).1 ∧
      Extract R (Store.call c now t).2 (Store.call c now s).2 := by
  obtain ⟨hcall, hdivided⟩ := Divisible.confined h.divided hc now
  rw [← h.part] at hcall
  rw [hcall]
  exact ⟨rfl, rfl, hdivided⟩

/-- One that only reads leaves both stores as they are. -/
theorem Extract.read (h : Extract R t s) {c : Call} (hc : R.Confined c) (now : Instant)
    (hleft : ∀ u : σ, (Store.call c now u).2 = u) :
    Store.call c now t = ((Store.call c now s).1, t) ∧
      Store.call c now s = ((Store.call c now s).1, s) :=
  ⟨Prod.ext (h.confined hc now).1 (hleft t), Prod.ext rfl (hleft s)⟩

/-- **A write that does not concern a realm leaves its extract alone.** -/
theorem Extract.foreign (h : Extract R t s) {c : Call} (hc : R.Foreign c) (now : Instant) :
    Extract R t (Store.call c now s).2 := by
  obtain ⟨hpart, hdivided⟩ := Divisible.foreign h.divided hc now
  exact ⟨h.part.trans hpart.symm, hdivided⟩

end

/-! ### A list of records -/

namespace Memory

variable {R : Realm} {m : Memory}

theorem map_snd_selected (m : Memory) (filter : Filter) :
    (Catalog.selected m filter).map Prod.snd = (m.records.filter filter.selects).map Except.ok := by
  show (((sequenced m.records).filter fun a => filter.selects a.2).map Entry.shown).map Prod.snd = _
  rw [← map_snd_filter_sequenced, List.map_map, List.map_map]
  rfl

/-- The records of some names. -/
def part (names : List String) (m : Memory) : Memory :=
  { m with records := m.records.filter fun r => r.name ∈ names }

/-- A list that is open and of records that belong to a realm or have nothing to do with it. -/
abbrev Divided (R : Realm) (m : Memory) : Prop := Cabinet.Bears R.Sorted m

/-- Calls that concern a realm only come to the same in its part of a list. -/
theorem call_part (h : Divided R m) {c : Call} (hc : R.Confined c) (now : Instant) :
    Store.call c now (part R.names m) =
      ((Store.call c now m).1, part R.names (Store.call c now m).2) := by
  obtain ⟨rs, closed⟩ := m
  obtain rfl : closed = false := h.1
  have hall : ∀ r ∈ rs, R.Sorted r := h.2
  have hversion : ∀ {id} version, R.ids id → ∀ r ∈ rs, r.isVersion id version = true →
      decide (r.name ∈ R.names) = true := fun _ hid r hr hv =>
    decide_eq_true ((hall r hr).owns_of_isVersion hv hid).name
  cases hc with
  | @getById id hid =>
      have hown : ∀ r ∈ rs, decide (r.id = id) = true → decide (r.name ∈ R.names) = true :=
        fun r hr ht => decide_eq_true ((hall r hr).owns_of_id (of_decide_eq_true ht ▸ hid)).name
      simp only [Store.call, getById, part, filter_part hown]
  | getVersion version hid =>
      simp only [Store.call, getVersion, part, find?_part (hversion version hid)]
  | @countRecent subject hours hsubject =>
      have hown : ∀ since, ∀ r ∈ rs, countsFor subject since r = true →
          decide (r.name ∈ R.names) = true := by
        intro since r hr ht
        have hpublisher := of_decide_eq_true (Bool.and_eq_true_iff.1 ht).1
        exact decide_eq_true ((hall r hr).resolve_right fun hno =>
          hno.publisher subject hpublisher hsubject).name
      simp only [Store.call, countRecent, part, countP_part (hown _)]
  | @commit record previous hrecord hprevious =>
      have hown : decide (record.name ∈ R.names) = true := decide_eq_true hrecord.name
      have hdemoted : ∀ p, previous = some p → decide (p.name ∈ R.names) = true ∧
          ∀ r ∈ rs, r.isVersion p.id p.version = true → decide (r.name ∈ R.names) = true :=
        fun p hp => ⟨decide_eq_true (hprevious p hp).name, hversion _ (hprevious p hp).id⟩
      have hpart := committed_part (fun name => name ∈ R.names) hown hdemoted
      simp only [Store.call, commit_eq, part, Bool.false_eq_true, if_false, hpart]
      cases committed rs record previous <;> rfl
  | @update id record hid hrecord =>
      have hown : decide (record.name ∈ R.names) = true := decide_eq_true hrecord.name
      simp only [Store.call, update, part, Bool.false_eq_true, if_false]
      rcases findIdx?_part (hversion record.version hid) with ⟨hnone, hnone'⟩ | ⟨i, j, hi, hj, -, hset⟩
      · simp only [place?, hnone, hnone']
      · simp only [place?, hi, hj, hset record hown]

/-- Writes that do not concern a realm leave its part of a list alone. -/
theorem part_call (h : Divided R m) {c : Call} (hc : R.Foreign c) (now : Instant) :
    part R.names (Store.call c now m).2 = part R.names m := by
  obtain ⟨rs, closed⟩ := m
  obtain rfl : closed = false := h.1
  have hall : ∀ r ∈ rs, R.Sorted r := h.2
  have hversion : ∀ {id} version, ¬R.ids id → ∀ r ∈ rs, r.isVersion id version = true →
      decide (r.name ∈ R.names) = false := fun _ hid r hr hv =>
    decide_eq_false ((hall r hr).avoids_of_isVersion hv hid).name
  cases hc with
  | @commit record previous hrecord hprevious =>
      have hown : decide (record.name ∈ R.names) = false := decide_eq_false hrecord.name
      have hdemoted : ∀ p, previous = some p → decide (p.name ∈ R.names) = false ∧
          ∀ r ∈ rs, r.isVersion p.id p.version = true → decide (r.name ∈ R.names) = false :=
        fun p hp => ⟨decide_eq_false (hprevious p hp).name, hversion _ (hprevious p hp).id⟩
      simp only [Store.call, commit_eq, Bool.false_eq_true, if_false]
      cases hres : committed rs record previous with
      | error e => rfl
      | ok rs' =>
          simp only [part, part_committed (fun name => name ∈ R.names) hown hdemoted hres]
  | @update id record hid hrecord =>
      have hown : decide (record.name ∈ R.names) = false := decide_eq_false hrecord.name
      simp only [Store.call, update, Bool.false_eq_true, if_false]
      cases hplace : place? rs id record.version with
      | none => rfl
      | some i =>
          obtain ⟨r, hr, hv⟩ := place?_eq_some hplace
          have hold : ∀ b, rs[i]? = some b → decide (b.name ∈ R.names) = false := by
            intro b hb
            obtain rfl : r = b := Option.some_inj.1 (hr.symm.trans hb)
            exact hversion _ hid r (List.mem_of_getElem? hr) hv
          have hset : ((rs.set i record).filter fun r => r.name ∈ R.names) =
              rs.filter fun r => r.name ∈ R.names := filter_set_of_not hown hold
          simp only [part, hset]

/-- **The list store is divisible.** -/
instance : Divisible Memory where
  part := part
  Divided := Divided
  isOpen h := h.1
  calm h hfew := Memory.calm h.1 hfew
  divided_part h := ⟨h.1, fun r hr => h.2 r (List.mem_filter.1 hr).1⟩
  size_part names m := List.length_filter_le _ _
  listed {R m} h filter hf := by
    have hown : ∀ r ∈ m.records, filter.selects r = true → decide (r.name ∈ R.names) = true :=
      fun r hr hsel => decide_eq_true ((h.2 r hr).owns_of_selects hf hsel).name
    rw [map_snd_selected, map_snd_selected]
    exact congrArg _ (filter_part hown)
  shown {R m} h name n x hx := by
    obtain ⟨a, ha, he⟩ := List.mem_map.1 hx
    obtain ⟨hmem, hsel⟩ := List.mem_filter.1 ha
    obtain rfl : a.2 = x := Except.ok.inj (congrArg Prod.snd he)
    have hsorted := h.2 _ (snd_mem_of_mem_sequenced hmem)
    rw [selects_name] at hsel
    obtain rfl := of_decide_eq_true hsel
    exact hsorted.imp (fun hown => ⟨hown.name, hown⟩) fun hno => ⟨hno.name, hno⟩
  found {R m} h id version now x hx := by
    have hfind : m.records.find? (fun r => r.isVersion id version) = some x := by
      simpa [Store.call, getVersion, h.1] using hx
    have hv : x.isVersion id version = true := (List.find?_eq_some_iff_append.1 hfind).1
    obtain ⟨hid, -⟩ := Record.isVersion_iff.1 hv
    have hsorted := h.2 x (List.mem_of_find?_eq_some hfind)
    exact hsorted.imp (fun hown => ⟨hid ▸ hown.id, hown⟩) fun hno => ⟨hid ▸ hno.id, hno⟩
  confined h c hc now := by
    refine ⟨call_part h hc now, ?_⟩
    cases hc with
    | commit hrecord hprevious =>
        exact Cabinet.commit h (.inl hrecord) (fun p hp => .inl (hprevious p hp)) now
    | update hid hrecord => exact Cabinet.update h (.inl hrecord) now
    | _ => exact h
  foreign h c hc now := by
    refine ⟨part_call h hc now, ?_⟩
    cases hc with
    | commit hrecord hprevious =>
        exact Cabinet.commit h (.inr hrecord) (fun p hp => .inr (hprevious p hp)) now
    | update hid hrecord => exact Cabinet.update h (.inr hrecord) now

end Memory

/-! ### A table of rows -/

/-- A row that belongs to a realm, and so does what its document says. -/
structure Realm.OwnsRow (R : Realm) (row : Row) : Prop where
  name : row.name ∈ R.names
  id : R.ids row.id
  document : ∃ r : Record, row.document = r.text ∧ R.Owns r

/-- A row that has nothing to do with a realm, nor has what its document says. -/
structure Realm.AvoidsRow (R : Realm) (row : Row) : Prop where
  name : row.name ∉ R.names
  id : ¬R.ids row.id
  document : ∃ r : Record, row.document = r.text ∧ R.Avoids { r with publishedBy := row.publishedBy }

/-- A row that belongs to a realm or has nothing to do with it. -/
def Realm.SortedRow (R : Realm) (row : Row) : Prop := R.OwnsRow row ∨ R.AvoidsRow row

/-- Bags that a table can look past, now and when they have been read back. -/
structure Realm.Shallow (R : Realm) : Prop where
  depth {bag : Bag} (h : R.bags bag) : bag.depth ≤ 999
  reread {bag bag' : Bag} (h : R.bags bag) (hread : bag.reread = .ok bag') : R.bags bag'

section

variable {R : Realm} {row : Row} {record p x : Record} {id : Uuid} {version : String} {filter : Filter}

/-- What is read of a row is like the record whose text its document is. -/
theorem Row.eq_of_record? {r : Record} (hdoc : row.document = r.text) (hx : row.record? = .ok x) :
    x.manifest = r.manifest ∧ x.id = r.id ∧ x.publishedBy = row.publishedBy ∧
      r.bag.reread = .ok x.bag := by
  rw [Row.record?_of_document hdoc] at hx
  cases hbag : r.bag.reread with
  | ok bag =>
      rw [hbag] at hx
      obtain rfl := Except.ok.inj hx
      exact ⟨rfl, rfl, rfl, rfl⟩
  | error fault =>
      rw [hbag] at hx
      cases hx

namespace Realm

theorem OwnsRow.read (h : R.OwnsRow row) (hx : row.record? = .ok x) : R.Owns x := by
  obtain ⟨r, hdoc, hr⟩ := h.document
  obtain ⟨hmanifest, hid, -⟩ := Row.eq_of_record? hdoc hx
  exact hr.of_eq hmanifest hid

theorem AvoidsRow.read (hR : R.Shallow) (h : R.AvoidsRow row) (hx : row.record? = .ok x) :
    R.Avoids x := by
  obtain ⟨r, hdoc, hr⟩ := h.document
  obtain ⟨hmanifest, hid, hpublisher, hbag⟩ := Row.eq_of_record? hdoc hx
  exact hr.of_eq hmanifest hid hpublisher (hR.reread hr.bag hbag)

theorem AvoidsRow.publisher (h : R.AvoidsRow row) {subject : String}
    (hpublisher : row.publishedBy = some subject) : ¬R.subjects subject := by
  obtain ⟨r, -, hr⟩ := h.document
  exact hr.publisher subject hpublisher

theorem SortedRow.owns_of_id (h : R.SortedRow row) (hid : R.ids row.id) : R.OwnsRow row :=
  h.resolve_right fun hno => hno.id hid

theorem SortedRow.avoids_of_id (h : R.SortedRow row) (hid : ¬R.ids row.id) : R.AvoidsRow row :=
  h.resolve_left fun hown => hid hown.id

theorem SortedRow.owns_of_isVersion (h : R.SortedRow row) (hv : row.isVersion id version = true)
    (hid : R.ids id) : R.OwnsRow row :=
  h.owns_of_id (of_decide_eq_true (Bool.and_eq_true_iff.1 hv).1 ▸ hid)

theorem SortedRow.avoids_of_isVersion (h : R.SortedRow row) (hv : row.isVersion id version = true)
    (hid : ¬R.ids id) : R.AvoidsRow row :=
  h.avoids_of_id (of_decide_eq_true (Bool.and_eq_true_iff.1 hv).1 ▸ hid)

theorem SortedRow.owns_of_selects (hR : R.Shallow) (h : R.SortedRow row) (hf : R.Lists filter)
    (hsel : row.selectedBy filter = true) : R.OwnsRow row := by
  refine h.resolve_right fun hno => ?_
  cases hf with
  | named hname =>
      rw [Rows.selectedBy_name] at hsel
      exact hno.name (of_decide_eq_true hsel ▸ hname)
  | linked hurl =>
      obtain ⟨r, hdoc, hr⟩ := hno.document
      have htangled : row.isTangled = false := by
        rw [← Bool.not_eq_true, Row.isTangled_iff hdoc, Nat.not_lt]
        exact hR.depth hr.bag
      rw [Row.selectedBy_remoteUrl, htangled, Bool.false_or, hdoc, Row.documentUrls_text] at hsel
      exact hr.urls _ (List.contains_iff_mem.1 hsel) hurl

theorem Sorted.ofRecord (h : R.Sorted record) : R.SortedRow (Row.ofRecord record) :=
  h.imp (fun hown => ⟨hown.name, hown.id, record, rfl, hown⟩)
    fun hno => ⟨hno.name, hno.id, record, rfl, hno⟩

/-- A row demoted to a version that is on the same side stays there. -/
theorem SortedRow.demoteRow (h : R.SortedRow row) (hp : R.Sorted p) (hid : row.id = p.id) :
    R.SortedRow (Rows.demoteRow p row) := by
  rcases h with hown | hno
  · exact .inl ⟨hown.name, hown.id, p, rfl, hp.owns_of_id (hid ▸ hown.id)⟩
  · have havoids := hp.avoids_of_id (hid ▸ hno.id)
    exact .inr ⟨hno.name, hno.id, p, rfl, havoids.name, havoids.id,
      fun _ hpublisher => hno.publisher hpublisher, havoids.urls, havoids.bag⟩

theorem SortedRow.revise_owns (h : R.SortedRow row) (hid : R.ids row.id) (hrecord : R.Owns record) :
    R.SortedRow (Rows.revise record row) :=
  .inl ⟨hrecord.name, (h.owns_of_id hid).id, record, rfl, hrecord⟩

theorem SortedRow.revise_avoids (h : R.SortedRow row) (hid : ¬R.ids row.id)
    (hrecord : R.Avoids record) : R.SortedRow (Rows.revise record row) :=
  .inr ⟨hrecord.name, hid, record, rfl, hrecord.name, hrecord.id,
    fun _ hpublisher => (h.avoids_of_id hid).publisher hpublisher, hrecord.urls, hrecord.bag⟩

end Realm

end

namespace Rows

variable {R : Realm} {t : Rows} {rows rows' : List Row} {record : Record} {previous : Option Record}

/-- The sequence numbers of the rows that are selected say nothing about them. -/
theorem map_snd_selected (t : Rows) (filter : Filter) :
    (Catalog.selected t filter).map Prod.snd =
      (t.rows.filter fun row => row.selectedBy filter).map (Row.shownBy filter) := by
  show (((sequenced t.rows).filter fun a => a.2.selectedBy filter).map
    fun a => (a.1, a.2.shownBy filter)).map Prod.snd = _
  have hfilter := List.filter_map (f := Prod.snd) (p := fun row : Row => row.selectedBy filter)
    (l := sequenced t.rows)
  rw [map_snd_sequenced] at hfilter
  rw [hfilter, List.map_map, List.map_map]
  rfl

/-- The rows of some names. -/
def part (names : List String) (t : Rows) : Rows :=
  { t with rows := t.rows.filter fun row => row.name ∈ names }

/-- A table that is open and of rows that belong to a realm or have nothing to do with it, and that can look
past the latter. -/
structure Divided (R : Realm) (t : Rows) : Prop where
  isOpen : t.closed = false
  sorted : ∀ row ∈ t.rows, R.SortedRow row
  shallow : R.Shallow

/-- A commit of what belongs to a realm or has nothing to do with it divides rows as they were. -/
theorem sorted_committed (h : ∀ row ∈ rows, R.SortedRow row) (hrecord : R.Sorted record)
    (hprevious : ∀ p, previous = some p → R.Sorted p) (hc : committed rows record previous = .ok rows') :
    ∀ row ∈ rows', R.SortedRow row := by
  obtain ⟨-, rows₁, hdemoted, hinsert⟩ := committed_eq_ok.1 hc
  obtain rfl := insert_eq_ok hinsert
  intro row hrow
  rcases List.mem_append.1 hrow with hrow | hrow
  · cases previous with
    | none =>
        obtain rfl : rows = rows₁ := Except.ok.inj hdemoted
        exact h row hrow
    | some p =>
        simp only [demoted, demote] at hdemoted
        split at hdemoted
        · obtain rfl := Except.ok.inj hdemoted
          obtain ⟨old, hold, rfl⟩ := List.mem_map.1 hrow
          split
          · rename_i hlatest
            have hv : old.isVersion p.id p.version = true := (Bool.and_eq_true_iff.1 hlatest).1
            exact (h old hold).demoteRow (hprevious p rfl)
              (of_decide_eq_true (Bool.and_eq_true_iff.1 hv).1)
          · exact h old hold
        · cases hdemoted
  · obtain rfl := List.mem_singleton.1 hrow
    exact hrecord.ofRecord

theorem divided_commit (h : Divided R t) (hrecord : R.Sorted record)
    (hprevious : ∀ p, previous = some p → R.Sorted p) (now : Instant) :
    Divided R (Store.call (.commit record previous) now t).2 := by
  simp only [Store.call, commit, h.isOpen, Bool.false_eq_true, if_false]
  cases hres : committed t.rows record previous with
  | error e => exact h
  | ok rows' => exact ⟨h.isOpen, sorted_committed h.sorted hrecord hprevious hres, h.shallow⟩

/-- Rows revised as they have to be leave a divided table divided. -/
theorem divided_update (h : Divided R t) {id : Uuid}
    (hrevised : ∀ row ∈ t.rows, row.id = id → R.SortedRow (revise record row)) (now : Instant) :
    Divided R (Store.call (.update id record) now t).2 := by
  simp only [Store.call, update, h.isOpen, Bool.false_eq_true, if_false]
  split
  · cases hres : reviseAll id record [] t.rows with
    | error e => exact h
    | ok rows' =>
        refine ⟨h.isOpen, fun row hrow => ?_, h.shallow⟩
        rw [reviseAll_eq_ok hres, List.nil_append] at hrow
        obtain ⟨old, hold, rfl⟩ := List.mem_map.1 hrow
        split
        · rename_i hv
          exact hrevised old hold (of_decide_eq_true (Bool.and_eq_true_iff.1 hv).1)
        · exact h.sorted old hold
  · exact h

theorem call_part (h : Divided R t) {c : Call} (hc : R.Confined c) (now : Instant) :
    Store.call c now (part R.names t) =
      ((Store.call c now t).1, part R.names (Store.call c now t).2) := by
  obtain ⟨rows, closed⟩ := t
  obtain rfl : closed = false := h.isOpen
  have hall : ∀ row ∈ rows, R.SortedRow row := h.sorted
  have hversion : ∀ {id} version, R.ids id → ∀ row ∈ rows, row.isVersion id version = true →
      decide (row.name ∈ R.names) = true := fun _ hid row hrow hv =>
    decide_eq_true ((hall row hrow).owns_of_isVersion hv hid).name
  cases hc with
  | @getById id hid =>
      have hown : ∀ row ∈ rows, decide (row.id = id) = true → decide (row.name ∈ R.names) = true :=
        fun row hrow ht =>
          decide_eq_true ((hall row hrow).owns_of_id (of_decide_eq_true ht ▸ hid)).name
      simp only [Store.call, getById, part, filter_part hown]
  | getVersion version hid =>
      simp only [Store.call, getVersion, part, find?_part (hversion version hid)]
  | @countRecent subject hours hsubject =>
      have hown : ∀ since, ∀ row ∈ rows, countsFor subject since row = true →
          decide (row.name ∈ R.names) = true := by
        intro since row hrow ht
        have hpublisher := of_decide_eq_true (Bool.and_eq_true_iff.1 ht).1
        exact decide_eq_true ((hall row hrow).resolve_right fun hno =>
          hno.publisher hpublisher hsubject).name
      simp only [Store.call, countRecent, part, countP_part (hown _)]
  | @commit record previous hrecord hprevious =>
      have hown : decide (record.name ∈ R.names) = true := decide_eq_true hrecord.name
      have hdemoted : ∀ p, previous = some p → ∀ row ∈ rows, row.isVersion p.id p.version = true →
          decide (row.name ∈ R.names) = true := fun p hp => hversion _ (hprevious p hp).id
      have hpart := committed_part (fun name => name ∈ R.names) hown hdemoted
      simp only [Store.call, commit, part, Bool.false_eq_true, if_false, hpart]
      cases committed rows record previous <;> rfl
  | @update id record hid hrecord =>
      have hown : decide (record.name ∈ R.names) = true := decide_eq_true hrecord.name
      have hpart := reviseAll_part (fun name => name ∈ R.names) hown []
        (hversion record.version hid)
      rw [List.filter_nil] at hpart
      simp only [Store.call, update, part, Bool.false_eq_true, if_false,
        any_part (hversion record.version hid), hpart]
      split
      · cases reviseAll id record [] rows <;> rfl
      · rfl

theorem part_call (h : Divided R t) {c : Call} (hc : R.Foreign c) (now : Instant) :
    part R.names (Store.call c now t).2 = part R.names t := by
  obtain ⟨rows, closed⟩ := t
  obtain rfl : closed = false := h.isOpen
  have hall : ∀ row ∈ rows, R.SortedRow row := h.sorted
  have hversion : ∀ {id} version, ¬R.ids id → ∀ row ∈ rows, row.isVersion id version = true →
      decide (row.name ∈ R.names) = false := fun _ hid row hrow hv =>
    decide_eq_false ((hall row hrow).avoids_of_isVersion hv hid).name
  cases hc with
  | @commit record previous hrecord hprevious =>
      have hown : decide (record.name ∈ R.names) = false := decide_eq_false hrecord.name
      have hdemoted : ∀ p, previous = some p → ∀ row ∈ rows, row.isVersion p.id p.version = true →
          decide (row.name ∈ R.names) = false := fun p hp => hversion _ (hprevious p hp).id
      simp only [Store.call, commit, Bool.false_eq_true, if_false]
      cases hres : committed rows record previous with
      | error e => rfl
      | ok rows' =>
          simp only [write, part,
            part_committed (fun name => name ∈ R.names) hown hdemoted hres]
  | @update id record hid hrecord =>
      have hown : decide (record.name ∈ R.names) = false := decide_eq_false hrecord.name
      simp only [Store.call, update, Bool.false_eq_true, if_false]
      split
      · cases hres : reviseAll id record [] rows with
        | error e => rfl
        | ok rows' =>
            simp only [write, part, part_reviseAll (fun name => name ∈ R.names) hown
              (hversion record.version hid) hres]
      · rfl

/-- **The table is divisible.** -/
instance : Divisible Rows where
  part := part
  Divided := Divided
  isOpen h := h.isOpen
  calm h hfew := Rows.calm h.isOpen hfew
  divided_part h := ⟨h.isOpen, fun row hrow => h.sorted row (List.mem_filter.1 hrow).1, h.shallow⟩
  size_part names t := List.length_filter_le _ _
  listed {R t} h filter hf := by
    have hown : ∀ row ∈ t.rows, row.selectedBy filter = true → decide (row.name ∈ R.names) = true :=
      fun row hrow hsel => decide_eq_true ((h.sorted row hrow).owns_of_selects h.shallow hf hsel).name
    rw [map_snd_selected, map_snd_selected]
    exact congrArg _ (filter_part hown)
  shown {R t} h name n x hx := by
    obtain ⟨a, ha, he⟩ := List.mem_map.1 hx
    obtain ⟨hmem, hsel⟩ := List.mem_filter.1 ha
    have hshown : a.2.shownBy { name := some name } = .ok x := congrArg Prod.snd he
    have hread := Row.record?_of_shownBy hshown
    rw [selectedBy_name] at hsel
    obtain rfl := of_decide_eq_true hsel
    exact (h.sorted _ (snd_mem_of_mem_sequenced hmem)).imp (fun hown => ⟨hown.name, hown.read hread⟩)
      fun hno => ⟨hno.name, hno.read h.shallow hread⟩
  found {R t} h id version now x hx := by
    obtain ⟨row, hrow, hv, hread⟩ := mem_of_getVersion hx
    have hid : row.id = id := of_decide_eq_true (Bool.and_eq_true_iff.1 hv).1
    exact (h.sorted row hrow).imp (fun hown => ⟨hid ▸ hown.id, hown.read hread⟩)
      fun hno => ⟨hid ▸ hno.id, hno.read h.shallow hread⟩
  confined {R t} h c hc now := by
    refine ⟨call_part h hc now, ?_⟩
    cases hc with
    | commit hrecord hprevious =>
        exact divided_commit h (.inl hrecord) (fun p hp => .inl (hprevious p hp)) now
    | update hid hrecord =>
        exact divided_update h (fun row hrow he => (h.sorted row hrow).revise_owns (he ▸ hid) hrecord) now
    | _ => exact h
  foreign {R t} h c hc now := by
    refine ⟨part_call h hc now, ?_⟩
    cases hc with
    | commit hrecord hprevious =>
        exact divided_commit h (.inr hrecord) (fun p hp => .inr (hprevious p hp)) now
    | update hid hrecord =>
        exact divided_update h (fun row hrow he => (h.sorted row hrow).revise_avoids (he ▸ hid) hrecord) now

end Rows

end Storage

end ManifestRegistry
