/-
**Stores that keep a list of records.**

Tasks see a store only through its answers.  What an answer may be, and what is kept afterwards, is
told here once for every store that keeps a list of records in the order in which they came: pages
and lookups show stored records, a commit and an update either leave the records alone or do to them
what they do to a plain list.  Such a store may hold updates to one flagged record for each name, and
it may be unable to give back some bags as they were.

Main definitions:

* `Storage.Shows` — what is read of a stored record;
* `Storage.Effect` — **the answer to a call and the records afterwards**;
* `Storage.Apt` — what a store may rely on in a call made by a task;
* `Storage.Ledger` — a store that keeps a list of records.

Main results:

* `Storage.Effect.map_imprint` — no call loses or changes an imprint;
* the list store is a ledger.
-/

import ManifestRegistry.Proofs.Instant.Reading
import ManifestRegistry.Proofs.Records.Orderly

set_option relaxedAutoImplicit false
set_option autoImplicit false

namespace ManifestRegistry

namespace Storage

/-- What is read of a stored record: all of it, save perhaps a bag that is not legible. -/
structure Shows (legible : Bag → Prop) (x r : Record) : Prop where
  manifest : x.manifest = r.manifest
  registration : x.registration = r.registration
  publishedBy : x.publishedBy = r.publishedBy
  /-- A legible bag is read as it is. -/
  eq : legible r.bag → x = r

namespace Shows

variable {legible : Bag → Prop} {x r : Record}

theorem refl (r : Record) : Shows legible r r := ⟨rfl, rfl, rfl, fun _ => rfl⟩

theorem imprint (h : Shows legible x r) : x.imprint = r.imprint := by
  simp [Record.imprint, Record.name, Record.version, Record.id, Record.publishedAt, h.manifest,
    h.registration, h.publishedBy]

theorem isLatest (h : Shows legible x r) : x.isLatest = r.isLatest := by
  simp [Record.isLatest, h.registration]

theorem isDated (h : Shows legible x r) (hr : r.IsDated) : x.IsDated := by
  unfold Record.IsDated
  rw [h.registration]
  exact hr

/-- Filters do not look at what may be read differently. -/
theorem selects (h : Shows legible x r) (filter : Filter) : filter.selects x = filter.selects r := by
  obtain ⟨manifest, registration, _, _⟩ := x
  obtain ⟨_, _, _, _⟩ := r
  obtain rfl := h.manifest
  obtain rfl := h.registration
  rfl

end Shows

/-- What a call made by a task may be answered with by a store that keeps `rs`, and what it keeps
afterwards. -/
def Effect (legible : Bag → Prop) (guarded : Prop) (rs : List Record) :
    (c : Call) → Reply c.Answer → List Record → Prop
  | .list filter _ _, reply, rs' => rs' = rs ∧ ∀ page, reply = .ok page → ∀ x ∈ page.items,
      ∃ r ∈ rs, Shows legible x r ∧ ∀ name, filter.name = some name → r.name = name
  | .getVersion id version, reply, rs' => rs' = rs ∧ ∀ x, reply = .ok (some x) →
      ∃ r ∈ rs, Shows legible x r ∧ r.isVersion id version = true
  | .countRecent .., _, rs' => rs' = rs
  | .commit record previous, reply, rs' => (∃ e, reply = .error e ∧ rs' = rs) ∨
      (reply = .ok record ∧ Memory.committed rs record previous = .ok rs')
  | .update id record, reply, rs' => (∃ e, reply = .error e ∧ rs' = rs) ∨
      (reply = .ok record ∧ ∃ i, Memory.place? rs id record.version = some i ∧
        rs' = rs.set i record ∧
        -- a guarded store admits no second flagged record of a name
        (guarded → record.isLatest = true → ∀ j r, rs[j]? = some r → r.name = record.name →
          r.isLatest = true → j = i))
  | .getById _, _, _ | .create _, _, _ | .close, _, _ => True

/-- What a store that keeps records with the imprints `ms` may rely on in a call made by a task: what
is written is dated, and what is put in place of a record is a state of a stored version. -/
def Apt (ms : List Imprint) : Call → Prop
  | .list .. | .getVersion .. | .countRecent .. => True
  | .commit record previous => record.IsDated ∧
      ∀ p, previous = some p → p.IsDated ∧ p.isLatest = false ∧ p.imprint ∈ ms
  | .update id record => record.IsDated ∧ record.id = id ∧ record.imprint ∈ ms
  | .getById _ | .create _ | .close => False

/-- A store that keeps a list of records. -/
class Ledger (σ : Type) [Store σ] where
  /-- The store is open and keeps these records. -/
  Keeps : σ → List Record → Prop
  /-- Which bags are read as they are. -/
  Legible : Bag → Prop
  /-- Whether updates are held to one flagged record for each name. -/
  Guarded : Prop
  /-- A call made by a task has its effect. -/
  effect {s : σ} {rs : List Record} {c : Call} (now : Instant) (hk : Keeps s rs)
    (hd : Distinct (rs.map Record.imprint)) (hr : ∀ r ∈ rs, r.IsDated)
    (hc : Apt (rs.map Record.imprint) c) :
    ∃ rs', Keeps (Store.call c now s).2 rs' ∧
      Effect Legible Guarded rs c (Store.call c now s).1 rs'

namespace Memory

theorem snd_mem_of_mem_sequenced {rs : List Record} {a : Nat × Record} (h : a ∈ sequenced rs) :
    a.2 ∈ rs := by
  rw [← map_snd_sequenced rs]
  exact List.mem_map_of_mem h

theorem mem_of_mem_list {m : Memory} {filter : Filter} {cursor : Option String} {limit : Nat}
    {page : Page Record} (h : m.list filter cursor limit = .ok page) {x : Record}
    (hx : x ∈ page.items) : x ∈ m.records ∧ filter.selects x = true := by
  unfold list at h
  split at h
  · simp [refuseClosed, refuse] at h
  · unfold Page.paginate at h
    cases hs : Page.start? cursor with
    | error e => simp [hs, refuse] at h
    | ok start =>
        simp only [hs, Except.ok.injEq] at h
        subst h
        rw [Page.items_ofSequenced] at hx
        obtain ⟨a, ha, rfl⟩ := List.mem_map.1 hx
        have hsel := List.mem_filter.1 (List.mem_filter.1 (List.mem_of_mem_take ha)).1
        exact ⟨snd_mem_of_mem_sequenced hsel.1, hsel.2⟩

theorem name_of_selects {filter : Filter} {r : Record} (h : filter.selects r = true)
    {name : String} (hn : filter.name = some name) : r.name = name := by
  simp only [Filter.selects, hn, Filter.holds, Bool.and_eq_true, decide_eq_true_eq] at h
  exact h.1.1.1.1.1.1

/-- The list store is a ledger: everything is legible, and updates are not held to anything. -/
instance : Ledger Memory where
  Keeps m rs := m.closed = false ∧ m.records = rs
  Legible _ := True
  Guarded := False
  effect {m rs c} now hk hd hr hc := by
    obtain ⟨hopen, rfl⟩ := hk
    cases c with
    | list filter cursor limit =>
        refine ⟨m.records, ⟨hopen, rfl⟩, rfl, fun page hp x hx => ?_⟩
        obtain ⟨hmem, hsel⟩ := mem_of_mem_list hp hx
        exact ⟨x, hmem, .refl x, fun name => name_of_selects hsel⟩
    | getVersion id version =>
        refine ⟨m.records, ⟨hopen, rfl⟩, rfl, fun x hx => ?_⟩
        have hfind : m.records.find? (fun r => r.isVersion id version) = some x := by
          simpa [Store.call, getVersion, hopen] using hx
        have hv : x.isVersion id version = true := by simpa using List.find?_some hfind
        exact ⟨x, List.mem_of_find?_eq_some hfind, .refl x, hv⟩
    | countRecent subject hours => exact ⟨m.records, ⟨hopen, rfl⟩, rfl⟩
    | commit record previous =>
        simp only [Store.call, commit_eq, hopen, Bool.false_eq_true, if_false]
        cases hres : committed m.records record previous with
        | error e => exact ⟨m.records, ⟨hopen, rfl⟩, .inl ⟨_, rfl, rfl⟩⟩
        | ok rs' => exact ⟨rs', ⟨rfl, rfl⟩, .inr ⟨rfl, hres⟩⟩
    | update id record =>
        simp only [Store.call, update, hopen, Bool.false_eq_true, if_false]
        cases hp : place? m.records id record.version with
        | none => exact ⟨m.records, ⟨hopen, rfl⟩, .inl ⟨_, rfl, rfl⟩⟩
        | some i =>
            exact ⟨m.records.set i record, ⟨rfl, rfl⟩, .inr ⟨rfl, i, hp, rfl, False.elim⟩⟩
    | getById _ | create _ | close => exact hc.elim

theorem keeps_empty : Ledger.Keeps ({} : Memory) [] := ⟨rfl, rfl⟩

end Memory

/-- **No call loses or changes an imprint**; a commit may add one. -/
theorem Effect.map_imprint {legible : Bag → Prop} {guarded : Prop} {rs rs' : List Record}
    {c : Call} {reply : Reply c.Answer} (h : Effect legible guarded rs c reply rs')
    (hd : Distinct (rs.map Record.imprint)) (hc : Apt (rs.map Record.imprint) c) :
    rs'.map Record.imprint = rs.map Record.imprint ∨
      ∃ record previous, c = .commit record previous ∧
        rs'.map Record.imprint = rs.map Record.imprint ++ [record.imprint] := by
  cases c with
  | list filter cursor limit => exact .inl (by rw [h.1])
  | getVersion id version => exact .inl (by rw [h.1])
  | countRecent subject hours => exact .inl (by rw [show rs' = rs from h])
  | commit record previous =>
      rcases h with ⟨_, _, rfl⟩ | ⟨_, hok⟩
      · exact .inl rfl
      · refine .inr ⟨record, previous, rfl, hd.map_imprint_committed (fun p hp => ?_) hok⟩
        exact (hc.2 p hp).2.2
  | update id record =>
      rcases h with ⟨_, _, rfl⟩ | ⟨_, i, hi, rfl, -⟩
      · exact .inl rfl
      · obtain ⟨-, rfl, hm⟩ := hc
        exact .inl (map_imprint_set fun r hr => hd.imprint_eq hi hr hm)
  | getById _ | create _ | close => exact hc.elim

end Storage

end ManifestRegistry
