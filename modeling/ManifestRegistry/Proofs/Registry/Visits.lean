/-
**A registry that is visited one by one.**

Visitors come to a registry one after the other, each with a publish or an edit, and nobody else is at
work on the store meanwhile, although time may pass.  Each change then comes to what its task comes to
on a plain list of records, and what is stored stays settled, within the ceiling and under identities
that were offered.

Main definitions:

* `Registry.Visit`, `Registry.serve`, `Registry.serveAll` — **visitors served one after the other**;
* `Registry.Visits.Fair` — visits whose moments are a clock's and that offer no identity twice;
* `Registry.Visits.Offered` — the identities that visits offer;
* `Registry.concluded` — a registry after a change that came to something;
* `Registry.Kept` — **what is known of a registry between two visits**.

Main results:

* `Registry.change_ends` — a task that ends on a list comes to the same in a registry;
* `Registry.Kept.publish`, `Registry.Kept.edit` — what a publish and an edit come to;
* `Registry.Kept.serve`, `Registry.kept_serveAll` — **this lasts over all visits**.
-/

import ManifestRegistry.Proofs.Service.Gates
import ManifestRegistry.Proofs.Service.Revision
import ManifestRegistry.Registry

set_option relaxedAutoImplicit false
set_option autoImplicit false

namespace ManifestRegistry

open Service Storage

namespace Registry

/-- What a visitor asks for. -/
inductive Demand where
  | publish (submission : Submission) (publisher : Publisher)
  | edit (id : Uuid) (submission : Submission) (editor : Publisher)

/-- The bag that comes with a demand. -/
def Demand.bag : Demand → Bag
  | .publish submission _ => submission.bag
  | .edit _ submission _ => submission.bag

/-- Someone who asks for something, and the moments of the calls that this takes. -/
structure Visit where
  clock : Nat → Moment
  demand : Demand

/-- An identity that visits offer. -/
def Visits.Offered (vs : List Visit) (id : Uuid) : Prop := ∃ v ∈ vs, ∃ i, (v.clock i).freshId = id

/-- Visits whose moments a clock can show, in years written without a sign, that do not offer one
identity twice and are not more than a cursor can count. -/
structure Visits.Fair (vs : List Visit) : Prop where
  readings : ∀ v ∈ vs, ∀ i, (v.clock i).now.IsReading
  inEra : ∀ v ∈ vs, ∀ i, (v.clock i).now.InEra
  fresh : vs.Pairwise fun u v => ∀ i j, (u.clock i).freshId ≠ (v.clock j).freshId
  few : vs.length ≤ Cursor.limit

section

variable {σ : Type} [PacedStore σ]

/-- A registry after a visit. -/
def serve (r : Registry σ) (v : Visit) : Registry σ :=
  match v.demand with
  | .publish submission publisher => (r.publishAt v.clock submission publisher).2
  | .edit id submission editor => (r.editAt v.clock id submission editor).2

/-- A registry after visits one after the other. -/
def serveAll (r : Registry σ) (vs : List Visit) : Registry σ := vs.foldl serve r

end

section

variable {σ : Type}

/-- A registry after a change that came to something, with the store that it left. -/
def concluded (r : Registry σ) (s : σ) : Change → Outcome Record × Registry σ
  | .ok (record, events) => (.ok record, { r with store := s }.emit events)
  | .error stop => (.error stop, { r with store := s })

variable {r : Registry σ} {s : σ} {change : Change}

@[simp] theorem concluded_config : (r.concluded s change).2.config = r.config := by
  rcases change with _ | ⟨_, _⟩ <;> rfl

@[simp] theorem concluded_validator : (r.concluded s change).2.validator = r.validator := by
  rcases change with _ | ⟨_, _⟩ <;> rfl

@[simp] theorem concluded_store : (r.concluded s change).2.store = s := by
  rcases change with _ | ⟨_, _⟩ <;> rfl

@[simp] theorem concluded_fst : (r.concluded s change).1 = change.map Prod.fst := by
  rcases change with _ | ⟨_, _⟩ <;> rfl

end

/-! ### Room and identities -/

/-- Imprints within the ceiling of each name, all under identities that visits have offered, and not more
than these visits. -/
structure Counted (most : Nat) (past : List Visit) (ms : List Imprint) : Prop where
  room : ∀ name, (ms.filter fun m => m.name = name).length ≤ most
  ids : ∀ m ∈ ms, Visits.Offered past m.id
  few : ms.length ≤ past.length

namespace Visits

variable {past : List Visit} {v : Visit} {id : Uuid}

theorem not_offered_nil (id : Uuid) : ¬Offered [] id := by
  rintro ⟨v, hv, -⟩
  exact absurd hv List.not_mem_nil

theorem not_offered {us vs : List Visit}
    (h : (us ++ vs).Pairwise fun u v => ∀ i j, (u.clock i).freshId ≠ (v.clock j).freshId) (hv : v ∈ vs)
    (i : Nat) : ¬Offered us (v.clock i).freshId := by
  rintro ⟨u, hu, j, hj⟩
  exact (List.pairwise_append.1 h).2.2 u hu v hv j i hj

theorem Offered.before (h : Offered past id) : Offered (past ++ [v]) id := by
  obtain ⟨u, hu, i, hi⟩ := h
  exact ⟨u, List.mem_append_left _ hu, i, hi⟩

theorem offered_last (past : List Visit) (v : Visit) (i : Nat) :
    Offered (past ++ [v]) (v.clock i).freshId :=
  ⟨v, List.mem_append_right _ List.mem_cons_self, i, rfl⟩

end Visits

namespace Counted

variable {most : Nat} {past : List Visit} {v : Visit} {ms : List Imprint}

theorem nil : Counted most [] [] :=
  ⟨fun _ => Nat.zero_le _, fun _ h => (nomatch h), Nat.zero_le _⟩

theorem same (h : Counted most past ms) (v : Visit) : Counted most (past ++ [v]) ms where
  room := h.room
  ids m hm := (h.ids m hm).before
  few := by
    rw [List.length_append]
    exact Nat.le_add_right_of_le h.few

/-- A visit that adds a version under its own identity or one that was offered before. -/
theorem add (h : Counted most past ms) {m : Imprint}
    (hroom : (ms.filter fun x => x.name = m.name).length < most)
    (hid : Visits.Offered (past ++ [v]) m.id) : Counted most (past ++ [v]) (ms ++ [m]) where
  room name := by
    rw [List.filter_append, List.length_append]
    -- only the name of the new version has one more
    by_cases hn : m.name = name
    · subst hn
      rw [List.filter_cons_of_pos (by simp), List.filter_nil, List.length_singleton]
      exact hroom
    · rw [List.filter_cons_of_neg (by simpa using hn), List.filter_nil]
      exact h.room name
  ids x hx := by
    rcases List.mem_append.1 hx with hx | hx
    · exact (h.ids x hx).before
    · obtain rfl := List.mem_singleton.1 hx
      exact hid
  few := by
    rw [List.length_append, List.length_append]
    exact Nat.add_le_add_right h.few 1

theorem length_filter_imprint (rs : List Record) (name : String) :
    ((rs.map Record.imprint).filter fun m => m.name = name).length =
      (rs.filter fun r => r.name = name).length := by
  rw [List.filter_map, List.length_map]
  rfl

/-- An admitted version finds room. -/
theorem stored_publish {rs : List Record} {p : Publish}
    (h : Counted p.config.maxVersions past (rs.map Record.imprint)) (ho : Orderly rs) {now : Instant}
    (ha : p.Admits now rs) (i : Nat) : Counted p.config.maxVersions (past ++ [v])
      ((p.stored (v.clock i) rs).map Record.imprint) := by
  rw [Publish.map_imprint_stored ho (Publish.versionFlaw?_eq_none.2 ha.version)]
  refine h.add ?_ ?_
  · rw [length_filter_imprint]
    exact ha.room
  · show Visits.Offered _ (p.owner (v.clock i) rs)
    unfold Publish.owner
    cases hfind : rs.find? fun r => r.name = p.manifest.name with
    | none => exact Visits.offered_last past v i
    | some r => exact (h.ids _ (List.mem_map_of_mem (List.mem_of_find?_eq_some hfind))).before

end Counted

/-! ### Between two visits -/

section

variable {σ : Type} [Store σ] [Ledger σ]

/-- What is known of a registry that keeps `rs` after some visits. -/
structure Kept (config : Config) (validator : Manifest.Validator) (r : Registry σ)
    (rs : List Record) (past : List Visit) : Prop where
  configured : r.config = config
  validated : r.validator = validator
  keeps : Ledger.Keeps r.store rs
  settled : Settled (Ledger.Legible σ) rs
  counted : Counted config.maxVersions past (rs.map Record.imprint)

variable {config : Config} {validator : Manifest.Validator} {r : Registry σ} {rs rs' : List Record}
  {past past' : List Visit}

theorem kept_opening {s : σ} (hk : Ledger.Keeps s []) (config : Config)
    (validator : Manifest.Validator) (events : Broadcast Event) :
    Kept config validator ⟨config, validator, s, events⟩ [] [] :=
  ⟨rfl, rfl, hk, settled_nil _, .nil⟩

namespace Kept

theorem length_le (h : Kept config validator r rs past) : rs.length ≤ past.length := by
  rw [← List.length_map (f := Record.imprint)]
  exact h.counted.few

theorem room (h : Kept config validator r rs past) (name : String) :
    (rs.filter fun r => r.name = name).length ≤ config.maxVersions := by
  rw [← Counted.length_filter_imprint]
  exact h.counted.room name

theorem offered (h : Kept config validator r rs past) {x : Record} (hx : x ∈ rs) :
    Visits.Offered past x.id :=
  h.counted.ids _ (List.mem_map_of_mem hx)

/-- What is known after a change that left some records. -/
theorem concluded (h : Kept config validator r rs past) {s : σ} (hs : Ledger.Keeps s rs')
    (hsettled : Settled (Ledger.Legible σ) rs')
    (hcounted : Counted config.maxVersions past' (rs'.map Record.imprint)) (change : Change) :
    Kept config validator (r.concluded s change).2 rs' past' where
  configured := by rw [concluded_config, h.configured]
  validated := by rw [concluded_validator, h.validated]
  keeps := by rwa [concluded_store]
  settled := hsettled
  counted := hcounted

end Kept

end

/-! ### One visit -/

variable {σ : Type} [Store σ] [Ledger σ] [Exact σ] {r : Registry σ} {rs rs' : List Record}
  {clock : Nat → Moment}

/-- **A task that ends on a list comes to the same in a registry.** -/
theorem change_ends {τ : Type} {m : Machine τ Change} {start : Progress τ Change} {n rounds : Nat}
    {change : Change} (hk : Ledger.Keeps r.store rs)
    (h : m.Ends (Ledger.Legible σ) clock 0 start rs n change rs') (hn : n ≤ rounds) :
    ∃ s, Ledger.Keeps s rs' ∧ r.change m start clock rounds = r.concluded s change := by
  have hcall : ∀ now c s, r.call now c s = Store.call c now s := fun _ _ _ => rfl
  obtain ⟨s, hrun, hs⟩ := h.run hcall hk hn
  refine ⟨s, hs, ?_⟩
  rw [Registry.change, runTask, hrun]
  rcases change with _ | ⟨_, _⟩ <;> rfl

namespace Kept

variable {config : Config} {validator : Manifest.Validator} {past : List Visit}
  (h : Kept config validator r rs past) (hfew : past.length ≤ Cursor.limit)
include h hfew

/-- **What a publish comes to between two visits.** -/
theorem publish (hera : (clock 0).now.InEra) (submission : Submission) (publisher : Publisher) :
    let p : Publish := ⟨config, validator, submission, publisher⟩
    ∃ s, ∃ i < p.rounds rs.length,
      Ledger.Keeps s (p.ending (clock i) rs (p.refusal? (clock 0).now rs)).2 ∧
      r.publishAt clock submission publisher =
        r.concluded s (p.ending (clock i) rs (p.refusal? (clock 0).now rs)).1 := by
  intro p
  obtain ⟨n, i, hn, hi, hends⟩ := Publish.ends (p := p) clock 0 h.settled
    (Nat.le_trans h.length_le hfew) (h.room _) hera
  have hrounds := Nat.le_trans hn (p.rounds_mono (Exact.size h.keeps))
  have hsame : (⟨r.config, r.validator, submission, publisher⟩ : Publish) = p := by
    rw [h.configured, h.validated]
  obtain ⟨s, hs, hres⟩ := change_ends h.keeps hends hrounds
  rw [Registry.publishAt, hsame]
  exact ⟨s, i, by omega, hs, hres⟩

/-- **What an edit comes to between two visits.** -/
theorem edit (clock : Nat → Moment) (id : Uuid) (submission : Submission) (editor : Publisher) :
    let e : Edit := ⟨config, validator, id, submission, editor⟩
    ∃ s, ∃ i < e.rounds rs.length,
      Ledger.Keeps s (e.ending rs (e.verdict (clock i) rs)).2 ∧
      r.editAt clock id submission editor =
        r.concluded s (e.ending rs (e.verdict (clock i) rs)).1 := by
  intro e
  obtain ⟨n, i, hn, hi, hends⟩ := Edit.ends (e := e) clock 0 h.settled
    (Nat.le_trans h.length_le hfew)
  have hrounds := Nat.le_trans hn (e.rounds_mono (Exact.size h.keeps))
  have hsame : (⟨r.config, r.validator, id, submission, editor⟩ : Edit) = e := by
    rw [h.configured, h.validated]
  obtain ⟨s, hs, hres⟩ := change_ends h.keeps hends hrounds
  rw [Registry.editAt, hsame]
  exact ⟨s, i, by omega, hs, hres⟩

section

variable (hnow : ∀ i, (clock i).now.IsReading) (hera : ∀ i, (clock i).now.InEra)
include hnow hera

omit [Exact σ] hfew in
/-- What is known of a registry after a publish that came to what the gates say. -/
theorem published (hfresh : ∀ i, ¬Visits.Offered past (clock i).freshId) {submission : Submission}
    (hbag : Ledger.Legible σ submission.bag) (publisher : Publisher) {s : σ} (i : Nat) :
    let p : Publish := ⟨config, validator, submission, publisher⟩
    let ending := p.ending (clock i) rs (p.refusal? (clock 0).now rs)
    Ledger.Keeps s ending.2 → Kept config validator (r.concluded s ending.1).2 ending.2
      (past ++ [⟨clock, .publish submission publisher⟩]) := by
  intro p ending hs
  cases href : p.refusal? (clock 0).now rs with
  | some f =>
      simp only [ending, href] at hs ⊢
      exact h.concluded hs h.settled (h.counted.same _) _
  | none =>
      simp only [ending, href] at hs ⊢
      have ha := Publish.refusal?_eq_none.1 href
      have hsettled := Publish.settled_stored h.settled (Publish.versionFlaw?_eq_none.2 ha.version)
        (hnow i) (hera i) hbag fun x hx hid => hfresh i (hid ▸ h.offered hx)
      have hcounted := h.counted.stored_publish (v := ⟨clock, .publish submission publisher⟩)
        h.settled.orderly ha i
      exact h.concluded hs hsettled hcounted _

omit [Exact σ] hfew in
/-- What is known of a registry after an edit that came to what its verdict says. -/
theorem edited (id : Uuid) {submission : Submission} (hbag : Ledger.Legible σ submission.bag)
    (editor : Publisher) {s : σ} (i : Nat) :
    let e : Edit := ⟨config, validator, id, submission, editor⟩
    let ending := e.ending rs (e.verdict (clock i) rs)
    Ledger.Keeps s ending.2 → Kept config validator (r.concluded s ending.1).2 ending.2
      (past ++ [⟨clock, .edit id submission editor⟩]) := by
  intro e ending hs
  have hcounted := h.counted.same ⟨clock, .edit id submission editor⟩
  cases hver : e.verdict (clock i) rs with
  | error f =>
      simp only [ending, hver] at hs ⊢
      exact h.concluded hs h.settled hcounted _
  | ok u =>
      simp only [ending, hver] at hs ⊢
      have hu := Edit.apply_of_verdict hver
      have hsettled := Edit.settled_stored h.settled hu (hnow i) (hera i) hbag
      rw [← Edit.map_imprint_stored h.settled.orderly hu] at hcounted
      exact h.concluded hs hsettled hcounted _

theorem after_publish (hfresh : ∀ i, ¬Visits.Offered past (clock i).freshId)
    {submission : Submission} (hbag : Ledger.Legible σ submission.bag) (publisher : Publisher) :
    ∃ rs', Kept config validator (r.publishAt clock submission publisher).2 rs'
      (past ++ [⟨clock, .publish submission publisher⟩]) := by
  obtain ⟨s, i, -, hs, hres⟩ := h.publish hfew (hera 0) submission publisher
  rw [hres]
  exact ⟨_, h.published hnow hera hfresh hbag publisher i hs⟩

theorem after_edit (id : Uuid) {submission : Submission}
    (hbag : Ledger.Legible σ submission.bag) (editor : Publisher) :
    ∃ rs', Kept config validator (r.editAt clock id submission editor).2 rs'
      (past ++ [⟨clock, .edit id submission editor⟩]) := by
  obtain ⟨s, i, -, hs, hres⟩ := h.edit hfew clock id submission editor
  rw [hres]
  exact ⟨_, h.edited hnow hera id hbag editor i hs⟩

end

/-- **What is known of a registry is known of it after a visit.** -/
theorem serve {v : Visit} (hnow : ∀ i, (v.clock i).now.IsReading)
    (hera : ∀ i, (v.clock i).now.InEra) (hfresh : ∀ i, ¬Visits.Offered past (v.clock i).freshId)
    (hbag : Ledger.Legible σ v.demand.bag) :
    ∃ rs', Kept config validator (r.serve v) rs' (past ++ [v]) := by
  obtain ⟨clock, demand⟩ := v
  cases demand with
  | publish submission publisher => exact h.after_publish hfew hnow hera hfresh hbag publisher
  | edit id submission editor => exact h.after_edit hfew hnow hera id hbag editor

end Kept

/-- **What is known of a registry lasts over all visits.** -/
theorem Kept.serveAll {config : Config} {validator : Manifest.Validator} {past : List Visit}
    (h : Kept config validator r rs past) {vs : List Visit} (hf : Visits.Fair (past ++ vs))
    (hbags : ∀ v ∈ vs, Ledger.Legible σ v.demand.bag) :
    ∃ rs', Kept config validator (r.serveAll vs) rs' (past ++ vs) := by
  -- the past grows by one at each visit, and nobody after it offers one of its identities
  induction vs generalizing r rs past with
  | nil =>
      rw [List.append_nil]
      exact ⟨rs, h⟩
  | cons v vs ih =>
      have hv : v ∈ past ++ v :: vs := List.mem_append_right _ List.mem_cons_self
      have hfew : past.length ≤ Cursor.limit := by
        have hall := hf.few
        rw [List.length_append] at hall
        omega
      have hnew : ∀ i, ¬Visits.Offered past (v.clock i).freshId :=
        Visits.not_offered hf.fresh List.mem_cons_self
      obtain ⟨rs₁, h₁⟩ := h.serve hfew (hf.readings v hv) (hf.inEra v hv) hnew
        (hbags v List.mem_cons_self)
      have hsplit : past ++ v :: vs = (past ++ [v]) ++ vs := by
        rw [List.append_assoc, List.singleton_append]
      rw [hsplit] at hf ⊢
      exact ih h₁ hf fun u hu => hbags u (List.mem_cons_of_mem _ hu)

/-- **A registry that began empty is known after fair visits.** -/
theorem kept_serveAll {s : σ} (hk : Ledger.Keeps s []) (config : Config)
    (validator : Manifest.Validator) (events : Broadcast Event) {vs : List Visit}
    (hf : Visits.Fair vs) (hbags : ∀ v ∈ vs, Ledger.Legible σ v.demand.bag) :
    ∃ rs, Kept config validator (serveAll ⟨config, validator, s, events⟩ vs) rs vs :=
  (kept_opening hk config validator events).serveAll hf hbags

end Registry

end ManifestRegistry
