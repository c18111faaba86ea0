/-
**What can be said of every document in a cabinet.**

Some things are true of all documents that a store holds, whatever their number and order: that they
come from some years, or that none of them lists a URL.  Such a property lasts as long as everything
written has it, and whoever reads gets nothing without it.  Unlike a ledger, a cabinet relies on nothing
that tasks know, so it bears even documents whose identities have been given out twice.

Main definitions:

* `Storage.Durable` — a property that outlasts writing and reading;
* `Storage.Cabinet` — **a store whose documents all have a property**;
* `Storage.Rows.Holds` — a row that holds a record.

Main results:

* the list store and the table are cabinets.
-/

import ManifestRegistry.Proofs.Storage.Columns
import ManifestRegistry.Proofs.Storage.Listing
import ManifestRegistry.Proofs.Storage.Rows
import Mathlib.Data.List.Forall2

set_option relaxedAutoImplicit false
set_option autoImplicit false

namespace ManifestRegistry

namespace Storage

/-- A property that outlasts writing and reading: whatever has it is dated, and a bag that was read back
or another publisher makes no difference. -/
structure Durable (P : Record → Prop) : Prop where
  dated {r : Record} : P r → r.IsDated
  reread {r : Record} {bag : Bag} (publishedBy : Option String) :
    P r → r.bag.reread = .ok bag → P { r with bag, publishedBy }

/-- A store whose documents all have a property. -/
class Cabinet (σ : Type) [Store σ] [Catalog σ] where
  /-- The store is open, and all its documents are those of records with the property. -/
  Bears : (Record → Prop) → σ → Prop
  isOpen {P : Record → Prop} {s : σ} (h : Bears P s) : Catalog.IsOpen s
  mono {P Q : Record → Prop} {s : σ} (h : Bears P s) (hPQ : ∀ r, P r → Q r) : Bears Q s
  /-- What a listing shows has the property. -/
  shown {P : Record → Prop} {s : σ} (hP : Durable P) (h : Bears P s) {filter : Filter} {n : Nat}
    {x : Record} (hx : (n, .ok x) ∈ Catalog.selected s filter) : P x
  /-- What is found under an identity and a version has the property. -/
  found {P : Record → Prop} {s : σ} (hP : Durable P) (h : Bears P s) {id : Uuid} {version : String}
    {now : Instant} {x : Record} (hx : (Store.call (.getVersion id version) now s).1 = .ok (some x)) :
    P x
  call_getVersion (s : σ) (id : Uuid) (version : String) (now : Instant) :
    (Store.call (.getVersion id version) now s).2 = s
  call_countRecent (s : σ) (subject : String) (hours : Nat) (now : Instant) :
    (Store.call (.countRecent subject hours) now s).2 = s
  commit {P : Record → Prop} {s : σ} (h : Bears P s) {record : Record} {previous : Option Record}
    (hr : P record) (hp : ∀ p, previous = some p → P p) (now : Instant) :
    Bears P (Store.call (.commit record previous) now s).2
  update {P : Record → Prop} {s : σ} (h : Bears P s) {id : Uuid} {record : Record} (hr : P record)
    (now : Instant) : Bears P (Store.call (.update id record) now s).2
  /-- If all that is shown under a URL has a name, all documents that list the URL have it. -/
  narrow {P : Record → Prop} {s : σ} (hP : Durable P) (h : Bears P s) {url name : String}
    (hall : ∀ e ∈ Catalog.selected s { remoteUrl := some url }, ∃ x, e.2 = .ok x ∧ x.name = name) :
    Bears (fun r => P r ∧ (url ∈ r.manifest.remoteUrls → r.name = name)) s

/-- A filter by URL selects the records that list it. -/
theorem selects_remoteUrl (url : String) (r : Record) :
    ({ remoteUrl := some url } : Filter).selects r = r.manifest.remoteUrls.contains url := by
  simp [Filter.selects, Filter.holds]

namespace Memory

/-- **The list store is a cabinet.** -/
instance : Cabinet Memory where
  Bears P m := m.closed = false ∧ ∀ r ∈ m.records, P r
  isOpen h := h.1
  mono h hPQ := ⟨h.1, fun r hr => hPQ r (h.2 r hr)⟩
  shown {P m} _ h filter n x hx := by
    obtain ⟨a, ha, he⟩ := List.mem_map.1 hx
    obtain rfl : a.2 = x := Except.ok.inj (congrArg Prod.snd he)
    exact h.2 _ (snd_mem_of_mem_sequenced (List.mem_filter.1 ha).1)
  found {P m} _ h id version now x hx := by
    have hfind : m.records.find? (fun r => r.isVersion id version) = some x := by
      simpa [Store.call, getVersion, h.1] using hx
    exact h.2 x (List.mem_of_find?_eq_some hfind)
  call_getVersion _ _ _ _ := rfl
  call_countRecent _ _ _ _ := rfl
  commit {P m} h record previous hr hp now := by
    simp only [Store.call, commit_eq, h.1, Bool.false_eq_true, if_false]
    cases hres : committed m.records record previous with
    | error e => exact h
    | ok rs' =>
        obtain ⟨-, rs₁, hd, hins⟩ := committed_eq_ok.1 hres
        obtain ⟨-, -, rfl⟩ := insert_eq_ok.1 hins
        refine ⟨rfl, ?_⟩
        intro r hmem
        rcases List.mem_append.1 hmem with hmem | hmem
        · rcases mem_demoted hd hmem with hmem | hmem
          · exact h.2 r hmem
          · exact hp r hmem
        · rw [List.mem_singleton.1 hmem]
          exact hr
  update {P m} h id record hr now := by
    simp only [Store.call, update, h.1, Bool.false_eq_true, if_false]
    cases place? m.records id record.version with
    | none => exact h
    | some i =>
        refine ⟨rfl, ?_⟩
        intro r hmem
        rcases List.mem_or_eq_of_mem_set hmem with hmem | rfl
        · exact h.2 r hmem
        · exact hr
  narrow {P m} _ h url name hall := by
    refine ⟨h.1, ?_⟩
    intro r hr
    refine ⟨h.2 r hr, ?_⟩
    intro hurl
    obtain ⟨a, ha, rfl⟩ : ∃ a ∈ sequenced m.records, a.2 = r :=
      List.mem_map.1 ((map_snd_sequenced m.records).symm ▸ hr)
    have hsel : ({ remoteUrl := some url } : Filter).selects a.2 = true := by
      rw [selects_remoteUrl]
      exact List.contains_iff_mem.2 hurl
    obtain ⟨x, hx, hname⟩ := hall _ (List.mem_map_of_mem (List.mem_filter.2 ⟨ha, hsel⟩))
    obtain rfl : a.2 = x := Except.ok.inj hx
    exact hname

end Memory

namespace Rows

variable {rows rows' : List Row} {record : Record} {row : Row}

/-! ### Where documents come from -/

theorem mem_of_demote {p : Record} (h : demote rows p = .ok rows') (hrow : row ∈ rows') :
    row ∈ rows ∨ row.document = p.text := by
  unfold demote at h
  split at h
  · obtain rfl := Except.ok.inj h
    obtain ⟨old, hold, rfl⟩ := List.mem_map.1 hrow
    split
    · exact .inr rfl
    · exact .inl hold
  · cases h

theorem mem_of_insert (h : insert rows record = .ok rows') (hrow : row ∈ rows') :
    row ∈ rows ∨ row.document = record.text := by
  simp only [insert, bind, Except.bind] at h
  split at h
  · cases h
  · obtain rfl := Except.ok.inj h
    rcases List.mem_append.1 hrow with hrow | hrow
    · exact .inl hrow
    · rw [List.mem_singleton.1 hrow]
      exact .inr rfl

theorem mem_of_committed {previous : Option Record} (h : committed rows record previous = .ok rows')
    (hrow : row ∈ rows') :
    row ∈ rows ∨ row.document = record.text ∨ ∃ p, previous = some p ∧ row.document = p.text := by
  have hbind : (demoted rows previous).bind (fun rows => insert rows record) = .ok rows' := by
    rw [committed_eq] at h
    split at h
    · split at h
      · cases h
      · exact h
    · exact h
  cases hd : demoted rows previous with
  | error e =>
      rw [hd] at hbind
      cases hbind
  | ok rows₁ =>
      rw [hd] at hbind
      rcases mem_of_insert hbind hrow with hrow | hdoc
      · cases previous with
        | none =>
            obtain rfl := Except.ok.inj hd
            exact .inl hrow
        | some p =>
            rcases mem_of_demote hd hrow with hrow | hdoc
            · exact .inl hrow
            · exact .inr (.inr ⟨p, rfl, hdoc⟩)
      · exact .inr (.inl hdoc)

theorem mem_of_reviseAll {id : Uuid} {done rest : List Row}
    (h : reviseAll id record done rest = .ok rows') (hrow : row ∈ rows') :
    row ∈ done ++ rest ∨ row.document = record.text := by
  induction rest generalizing done with
  | nil =>
      obtain rfl := Except.ok.inj h
      exact .inl (List.mem_append_left _ hrow)
  | cons old rest ih =>
      have hshift : ∀ new : Row, row ∈ done ++ [new] ++ rest → row = new ∨ row ∈ done ++ old :: rest := by
        intro new hmem
        simp only [List.append_assoc, List.mem_append, List.mem_cons, List.not_mem_nil,
          or_false] at hmem ⊢
        rcases hmem with hmem | hmem | hmem
        · exact .inr (.inl hmem)
        · exact .inl hmem
        · exact .inr (.inr (.inr hmem))
      rw [reviseAll] at h
      split at h
      · simp only [bind, Except.bind] at h
        split at h
        · cases h
        · rcases ih h with hmem | hdoc
          · rcases hshift _ hmem with rfl | hmem
            · exact .inr rfl
            · exact .inl hmem
          · exact .inr hdoc
      · rcases ih h with hmem | hdoc
        · rcases hshift _ hmem with rfl | hmem
          · exact .inl (List.mem_append_right _ List.mem_cons_self)
          · exact .inl hmem
        · exact .inr hdoc

/-- What is read of a row has every durable property that the record of its document has. -/
theorem of_record? {P : Record → Prop} (hP : Durable P) {r x : Record} (hr : P r)
    (hdoc : row.document = r.text) (hx : row.record? = .ok x) : P x ∧ x.manifest = r.manifest := by
  rw [Row.record?_of_text hdoc (hP.dated hr)] at hx
  cases hbag : r.bag.reread with
  | error e =>
      rw [hbag] at hx
      cases hx
  | ok bag =>
      rw [hbag] at hx
      obtain rfl := Except.ok.inj hx
      exact ⟨hP.reread _ hr hbag, rfl⟩

/-- A row that holds a record: its document is the record's text, and whatever is read of it has the
record's manifest. -/
structure Holds (row : Row) (r : Record) : Prop where
  document : row.document = r.text
  manifest {x : Record} : row.record? = .ok x → x.manifest = r.manifest

/-- Rows with the documents of records that have a durable property hold such records. -/
theorem exists_held {P : Record → Prop} (hP : Durable P)
    (h : ∀ row ∈ rows, ∃ r, P r ∧ row.document = r.text) :
    ∃ rs, List.Forall₂ Holds rows rs ∧ ∀ r ∈ rs, P r := by
  induction rows with
  | nil => exact ⟨[], .nil, fun r hr => absurd hr List.not_mem_nil⟩
  | cons row rows ih =>
      obtain ⟨r, hr, hdoc⟩ := h row List.mem_cons_self
      obtain ⟨rs, hheld, hrs⟩ := ih fun row' hrow' => h row' (List.mem_cons_of_mem _ hrow')
      refine ⟨r :: rs, .cons ⟨hdoc, fun hx => (of_record? hP hr hdoc hx).2⟩ hheld, ?_⟩
      intro x hx
      rcases List.mem_cons.1 hx with rfl | hx
      · exact hr
      · exact hrs x hx

theorem map_snd_sequenced (rows : List Row) : (sequenced rows).map Prod.snd = rows := by
  simp [sequenced, List.map_map, Function.comp_def]

/-- **The table is a cabinet.** -/
instance : Cabinet Rows where
  Bears P t := t.closed = false ∧ ∀ row ∈ t.rows, ∃ r, P r ∧ row.document = r.text
  isOpen h := h.1
  mono h hPQ := by
    refine ⟨h.1, ?_⟩
    intro row hrow
    obtain ⟨r, hr, hdoc⟩ := h.2 row hrow
    exact ⟨r, hPQ r hr, hdoc⟩
  shown {P t} hP h filter n x hx := by
    obtain ⟨a, ha, he⟩ := List.mem_map.1 hx
    obtain ⟨r, hr, hdoc⟩ := h.2 _ (snd_mem_of_mem_sequenced (List.mem_filter.1 ha).1)
    exact (of_record? hP hr hdoc (Row.record?_of_shownBy (congrArg Prod.snd he))).1
  found {P t} hP h id version now x hx := by
    obtain ⟨row, hrow, -, hrec⟩ := mem_of_getVersion hx
    obtain ⟨r, hr, hdoc⟩ := h.2 row hrow
    exact (of_record? hP hr hdoc hrec).1
  call_getVersion _ _ _ _ := rfl
  call_countRecent _ _ _ _ := rfl
  commit {P t} h record previous hr hp now := by
    simp only [Store.call, commit, h.1, Bool.false_eq_true, if_false]
    cases hres : committed t.rows record previous with
    | error e => exact h
    | ok rows =>
        refine ⟨h.1, ?_⟩
        intro row hrow
        rcases mem_of_committed hres hrow with hrow | hdoc | ⟨p, hprev, hdoc⟩
        · exact h.2 row hrow
        · exact ⟨record, hr, hdoc⟩
        · exact ⟨p, hp p hprev, hdoc⟩
  update {P t} h id record hr now := by
    simp only [Store.call, update, h.1, Bool.false_eq_true, if_false]
    split
    · cases hres : reviseAll id record [] t.rows with
      | error e => exact h
      | ok rows =>
          refine ⟨h.1, ?_⟩
          intro row hrow
          rcases mem_of_reviseAll hres hrow with hrow | hdoc
          · exact h.2 row hrow
          · exact ⟨record, hr, hdoc⟩
    · exact h
  narrow {P t} hP h url name hall := by
    refine ⟨h.1, ?_⟩
    intro row hrow
    obtain ⟨r, hr, hdoc⟩ := h.2 row hrow
    refine ⟨r, ⟨hr, ?_⟩, hdoc⟩
    intro hurl
    obtain ⟨a, ha, rfl⟩ : ∃ a ∈ sequenced t.rows, a.2 = row :=
      List.mem_map.1 ((map_snd_sequenced t.rows).symm ▸ hrow)
    have hsel : a.2.selectedBy { remoteUrl := some url } = true := by
      rw [Row.selectedBy_remoteUrl, hdoc, Row.documentUrls_text, List.contains_iff_mem.2 hurl, Bool.or_true]
    obtain ⟨x, hx, hname⟩ := hall _ (List.mem_map_of_mem (List.mem_filter.2 ⟨ha, hsel⟩))
    obtain ⟨-, hman⟩ := of_record? hP hr hdoc (Row.record?_of_shownBy hx)
    rw [← hname, Record.name, Record.name, hman]

end Rows

end Storage

end ManifestRegistry
