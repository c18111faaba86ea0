/-
**A list and a table answer alike.**

Two registries under the same settings, one with a list of records and one with a table, are asked the
same things at the same moments and are offered the same identities.  After each of them the table holds
the rows of the records in the list, and so the next one is answered alike too: changes come to the same
on any list of records, and whatever the table reads it reads as the list has it.

Main definitions:

* `Registry.Errand`, `Registry.attend`, `Registry.attendAll` — changes and questions, and the responses;
* `Registry.Errand.Comparable` — errands at which a table can tell what a list does;
* `Registry.Alike` — **a table that holds the rows of the records in a list**.

Main results:

* `Registry.Alike.visit`, `Registry.Alike.ask` — changes and questions are answered alike;
* `Registry.attendAll_alike` — **so are any errands**, one after the other.
-/

import ManifestRegistry.Proofs.Registry.Alone
import ManifestRegistry.Proofs.Registry.Reference

set_option relaxedAutoImplicit false
set_option autoImplicit false

namespace ManifestRegistry

open Service Storage

/-- Calls at one moment are calls by a clock that stands still. -/
theorem Service.Machine.run_eq_runAt {τ ρ α : Type} (m : Machine τ ρ)
    (call : Instant → (c : Call) → α → Reply c.Answer × α) (moment : Moment) (rounds made : Nat)
    (progress : Progress τ ρ) (s : α) :
    m.runAt (fun _ => call moment.now) (fun _ => moment) rounds made progress s =
      m.runAt call (fun _ => moment) rounds made progress s := by
  induction rounds generalizing made progress s with
  | zero => cases progress <;> rfl
  | succ rounds ih =>
      cases progress with
      | finished r => rfl
      | running state => exact ih _ _ _

namespace Registry

/-! ### Errands -/

/-- What someone asks of a registry without changing anything. -/
inductive Question where
  | list (filter : Filter) (cursor : Option String) (limit : Nat)
  | get (id : Uuid)
  | getVersion (id : Uuid) (version : String)
  | versions (name : String)

/-- A change or a question. -/
inductive Errand where
  | visit (v : Visit)
  | ask (moment : Moment) (question : Question)

/-- What a registry responds. -/
inductive Response where
  | record (outcome : Outcome Record)
  | page (outcome : Outcome (Page Record))
  | records (outcome : Outcome (List Record))

/-- The visit that an errand is, if it is one. -/
def Errand.visit? : Errand → Option Visit
  | .visit v => some v
  | .ask .. => none

/-- An errand at which a table can tell what a list does: the bag that it brings is read back as it is,
and the instant by which it filters can be compared by its stamp. -/
def Errand.Comparable : Errand → Prop
  | .visit v => v.demand.bag.Lossless
  | .ask _ (.list filter _ _) =>
      ∀ since, filter.updatedSince = some since → since.IsReading ∧ since.InEra
  | .ask .. => True

section

variable {σ : Type} [PacedStore σ]

/-- The response to a question, and the registry afterwards. -/
def respond (r : Registry σ) (moment : Moment) : Question → Response × Registry σ
  | .list filter cursor limit =>
      let (outcome, r) := r.list moment.now filter cursor limit
      (.page outcome, r)
  | .get id =>
      let (outcome, r) := r.get moment.now id
      (.record outcome, r)
  | .getVersion id version =>
      let (outcome, r) := r.getVersion moment.now id version
      (.record outcome, r)
  | .versions name =>
      let (outcome, r) := r.versions moment name
      (.records outcome, r)

/-- The response to an errand, and the registry afterwards. -/
def attend (r : Registry σ) : Errand → Response × Registry σ
  | .visit ⟨clock, .publish submission publisher⟩ =>
      let (outcome, r) := r.publishAt clock submission publisher
      (.record outcome, r)
  | .visit ⟨clock, .edit id submission editor⟩ =>
      let (outcome, r) := r.editAt clock id submission editor
      (.record outcome, r)
  | .ask moment question => r.respond moment question

/-- A visit is attended to like any errand. -/
theorem attend_visit (r : Registry σ) (v : Visit) :
    r.attend (.visit v) = (.record (r.visited v).1, (r.visited v).2) := by
  obtain ⟨clock, demand⟩ := v
  cases demand <;> rfl

/-- The responses to errands one after the other, and the registry afterwards. -/
def attendAll (r : Registry σ) : List Errand → List Response × Registry σ
  | [] => ([], r)
  | errand :: errands =>
    let (response, r) := r.attend errand
    let (responses, r) := attendAll r errands
    (response :: responses, r)

end

/-! ### A list and a table -/

/-- Two registries after the same visits: what one keeps as records the other keeps as rows, and both
have told their listeners the same. -/
structure Alike (config : Config) (validator : Manifest.Validator) (m : Registry Memory)
    (t : Registry Rows) (rs : List Record) (past : List Visit) : Prop where
  list : Kept config validator m rs past
  table : Kept config validator t rs past
  events : m.events = t.events

variable {config : Config} {validator : Manifest.Validator} {m : Registry Memory} {t : Registry Rows}
  {rs : List Record} {past : List Visit}

/-- What a change tells listeners does not depend on the store. -/
theorem events_concluded (h : m.events = t.events) (s : Memory) (s' : Rows) (change : Change) :
    (m.concluded s change).2.events = (t.concluded s' change).2.events := by
  rcases change with _ | ⟨_, _⟩
  · exact h
  · simp only [concluded, emit, h]

namespace Alike

theorem store_list (h : Alike config validator m t rs past) : m.store = ⟨rs, false⟩ := by
  obtain ⟨hopen, hrecords⟩ := h.list.keeps
  cases hm : m.store
  simp_all

theorem store_table (h : Alike config validator m t rs past) :
    t.store = ⟨rs.map Row.ofRecord, false⟩ :=
  Rows.eq_of_keeps h.table.keeps

/-- A list of records and the table of their rows have room for the calls that a list has room for. -/
theorem change (h : Alike config validator m t rs past) {τ : Type} {machine : Machine τ Change}
    {start : Progress τ Change} {clock : Nat → Moment} {n : Nat} {change : Change}
    {rs' : List Record} (hends : machine.Ends Bag.Lossless clock 0 start rs n change rs')
    {rounds : Nat → Nat} (hmono : ∀ {size size'}, size ≤ size' → rounds size ≤ rounds size')
    (hn : n ≤ rounds rs.length) :
    ∃ s s', Ledger.Keeps s rs' ∧ Ledger.Keeps s' rs' ∧
      m.change machine start clock (rounds (PacedStore.size m.store)) = m.concluded s change ∧
      t.change machine start clock (rounds (PacedStore.size t.store)) = t.concluded s' change := by
  have hlist : machine.Ends (Ledger.Legible Memory) clock 0 start rs n change rs' :=
    hends.mono fun _ _ => trivial
  obtain ⟨s, hs, hm⟩ := change_ends h.list.keeps hlist
    (Nat.le_trans hn (hmono (Exact.size h.list.keeps)))
  obtain ⟨s', hs', ht⟩ := change_ends h.table.keeps hends
    (Nat.le_trans hn (hmono (Exact.size h.table.keeps)))
  exact ⟨s, s', hs, hs', hm, ht⟩

section

variable (h : Alike config validator m t rs past) (hfew : past.length ≤ Cursor.limit)
  {clock : Nat → Moment} (hnow : ∀ i, (clock i).now.IsReading) (hera : ∀ i, (clock i).now.InEra)
include h hfew hnow hera

/-- **A publish comes to the same.** -/
theorem publish (hfresh : ∀ i, ¬Visits.Offered past (clock i).freshId) {submission : Submission}
    (hbag : submission.bag.Lossless) (publisher : Publisher) :
    (m.publishAt clock submission publisher).1 = (t.publishAt clock submission publisher).1 ∧
    ∃ rs', Alike config validator (m.publishAt clock submission publisher).2
      (t.publishAt clock submission publisher).2 rs'
        (past ++ [⟨clock, .publish submission publisher⟩]) := by
  let p : Publish := ⟨config, validator, submission, publisher⟩
  obtain ⟨n, i, hn, -, hends⟩ := Publish.ends (p := p) clock 0 h.table.settled
    (Nat.le_trans h.table.length_le hfew) (h.table.room _) (hera 0)
  obtain ⟨s, s', hs, hs', hm, ht⟩ := h.change hends p.rounds_mono hn
  have hpm : (⟨m.config, m.validator, submission, publisher⟩ : Publish) = p := by
    rw [h.list.configured, h.list.validated]
  have hpt : (⟨t.config, t.validator, submission, publisher⟩ : Publish) = p := by
    rw [h.table.configured, h.table.validated]
  simp only [Registry.publishAt, hpm, hpt, hm, ht, concluded_fst, true_and]
  exact ⟨_, h.list.published hnow hera hfresh trivial publisher i hs,
    h.table.published hnow hera hfresh hbag publisher i hs', events_concluded h.events s s' _⟩

/-- **An edit comes to the same.** -/
theorem edit (id : Uuid) {submission : Submission} (hbag : submission.bag.Lossless)
    (editor : Publisher) :
    (m.editAt clock id submission editor).1 = (t.editAt clock id submission editor).1 ∧
    ∃ rs', Alike config validator (m.editAt clock id submission editor).2
      (t.editAt clock id submission editor).2 rs' (past ++ [⟨clock, .edit id submission editor⟩]) := by
  let e : Edit := ⟨config, validator, id, submission, editor⟩
  obtain ⟨n, i, hn, -, hends⟩ := Edit.ends (e := e) clock 0 h.table.settled
    (Nat.le_trans h.table.length_le hfew)
  obtain ⟨s, s', hs, hs', hm, ht⟩ := h.change hends e.rounds_mono hn
  have hem : (⟨m.config, m.validator, id, submission, editor⟩ : Edit) = e := by
    rw [h.list.configured, h.list.validated]
  have het : (⟨t.config, t.validator, id, submission, editor⟩ : Edit) = e := by
    rw [h.table.configured, h.table.validated]
  simp only [Registry.editAt, hem, het, hm, ht, concluded_fst, true_and]
  exact ⟨_, h.list.edited hnow hera id trivial editor i hs,
    h.table.edited hnow hera id hbag editor i hs', events_concluded h.events s s' _⟩

end

/-- **A change comes to the same.** -/
theorem visit (h : Alike config validator m t rs past) (hfew : past.length ≤ Cursor.limit) {v : Visit}
    (hnow : ∀ i, (v.clock i).now.IsReading) (hera : ∀ i, (v.clock i).now.InEra)
    (hfresh : ∀ i, ¬Visits.Offered past (v.clock i).freshId) (hbag : v.demand.bag.Lossless) :
    (m.attend (.visit v)).1 = (t.attend (.visit v)).1 ∧
      ∃ rs', Alike config validator (m.attend (.visit v)).2 (t.attend (.visit v)).2 rs'
        (past ++ [v]) := by
  obtain ⟨clock, demand⟩ := v
  cases demand with
  | publish submission publisher =>
      obtain ⟨hsame, halike⟩ := h.publish hfew hnow hera hfresh hbag publisher
      exact ⟨congrArg Response.record hsame, halike⟩
  | edit id submission editor =>
      obtain ⟨hsame, halike⟩ := h.edit hfew hnow hera id hbag editor
      exact ⟨congrArg Response.record hsame, halike⟩

/-! ### Questions -/

/-- A question leaves a registry as it is. -/
theorem ask_eq {σ : Type} [Store σ] (r : Registry σ) (now : Instant) (c : Call)
    (hsame : (Store.call c now r.store).2 = r.store) :
    r.ask now c = (ofReply (Store.call c now r.store).1, r) := by
  unfold Registry.ask call
  rw [within_eq_call]
  simp only [hsame]

/-- The versions of a name that are read of any exact store, page by page. -/
theorem versions_eq {σ : Type} [Store σ] [Ledger σ] [Exact σ] {r : Registry σ}
    (hk : Kept config validator r rs past) (hfew : past.length ≤ Cursor.limit) (moment : Moment)
    (name : String) : ∃ s, Ledger.Keeps s rs ∧ r.versions moment name =
      (named name (.ok ((rs.filter fun r => (Publish.lookup config name).filter.selects r).take
        (Publish.lookup config name).ceiling)), { r with store := s }) := by
  have hfits : rs.length ≤ Cursor.limit := Nat.le_trans hk.length_le hfew
  have hlisted := Listed.start (Publish.lookup config name).filter hfits rfl
  have hpage : 0 < (Publish.lookup config name).pageSize :=
    Nat.lt_of_lt_of_le Nat.one_pos (Nat.le_max_right _ _)
  obtain ⟨n, -, hn, hends⟩ := Collect.ends (fun _ => moment) 0 hk.settled
    (Publish.lookup config name) hlisted hpage rfl rfl
  have hcall : ∀ now c s, r.call now c s = Store.call c now s := fun _ _ _ => rfl
  have hrounds : n ≤ Collect.rounds (PacedStore.size r.store) :=
    Nat.le_trans hn (Nat.succ_le_succ (Nat.le_trans hlisted.length_le (Exact.size hk.keeps)))
  obtain ⟨s, hrun, hs⟩ := hends.run hcall hk.keeps hrounds
  refine ⟨s, hs, ?_⟩
  rw [← Machine.run_eq_runAt] at hrun
  unfold Registry.versions Machine.run
  simp only [hk.configured, hrun]
  rfl

/-- What is known of a registry is known of it with another store that keeps the same. -/
theorem kept_with {σ : Type} [Store σ] [Ledger σ] {r : Registry σ}
    (hk : Kept config validator r rs past) {s : σ} (hs : Ledger.Keeps s rs) :
    Kept config validator { r with store := s } rs past :=
  ⟨hk.configured, hk.validated, hs, hk.settled, hk.counted⟩

section

variable (h : Alike config validator m t rs past) (hfew : past.length ≤ Cursor.limit)
include h

/-- A call that a list and a table answer alike without changing anything is a question that both
registries answer alike. -/
theorem ask_call (now : Instant) (c : Call)
    (hsame : Store.call c now (Rows.mk (rs.map Row.ofRecord) false) =
      ((Store.call c now (Memory.mk rs false)).1, ⟨rs.map Row.ofRecord, false⟩))
    (hlist : (Store.call c now (Memory.mk rs false)).2 = ⟨rs, false⟩) :
    (m.ask now c).1 = (t.ask now c).1 ∧ (m.ask now c).2 = m ∧ (t.ask now c).2 = t := by
  have hm := ask_eq m now c (by rw [h.store_list, hlist])
  have ht := ask_eq t now c (by rw [h.store_table, hsame])
  rw [hm, ht, h.store_list, h.store_table, hsame]
  exact ⟨rfl, rfl, rfl⟩

include hfew

/-- **A question is answered alike**, and leaves the registries alike. -/
theorem ask {moment : Moment} {question : Question} (hc : (Errand.ask moment question).Comparable) :
    (m.respond moment question).1 = (t.respond moment question).1 ∧
      Alike config validator (m.respond moment question).2 (t.respond moment question).2 rs past := by
  have hs := h.table.settled
  cases question with
  | list filter cursor limit =>
      have hlist : m.list moment.now filter cursor limit =
          m.ask moment.now (.list filter cursor (config.pageSize limit)) := by
        rw [← h.list.configured]
        rfl
      have htable : t.list moment.now filter cursor limit =
          t.ask moment.now (.list filter cursor (config.pageSize limit)) := by
        rw [← h.table.configured]
        rfl
      obtain ⟨hanswer, hm, ht⟩ := h.ask_call moment.now
        (.list filter cursor (config.pageSize limit))
        (congrArg (·, _) (Rows.list_eq hs hc cursor _)) rfl
      simp only [respond, hlist, htable, hanswer, hm, ht, true_and]
      exact h
  | get id =>
      obtain ⟨hanswer, hm, ht⟩ := h.ask_call moment.now (.getById id)
        (congrArg (·, _) (Rows.getById_eq hs id)) rfl
      simp only [respond, Registry.get, hanswer, hm, ht, true_and]
      exact h
  | getVersion id version =>
      obtain ⟨hanswer, hm, ht⟩ := h.ask_call moment.now (.getVersion id version)
        (congrArg (·, _) (Rows.getVersion_eq hs id version)) rfl
      simp only [respond, Registry.getVersion, hanswer, hm, ht, true_and]
      exact h
  | versions name =>
      obtain ⟨s, hs, hm⟩ := versions_eq h.list hfew moment name
      obtain ⟨s', hs', ht⟩ := versions_eq h.table hfew moment name
      simp only [respond, hm, ht, true_and]
      exact ⟨kept_with h.list hs, kept_with h.table hs', h.events⟩

end

end Alike

/-! ### Errands one after the other -/

/-- **Any errands are answered alike.** -/
theorem Alike.attendAll (h : Alike config validator m t rs past) {errands : List Errand}
    (hf : Visits.Fair (past ++ errands.filterMap Errand.visit?))
    (hc : ∀ errand ∈ errands, errand.Comparable) :
    (m.attendAll errands).1 = (t.attendAll errands).1 ∧
      ∃ rs', Alike config validator (m.attendAll errands).2 (t.attendAll errands).2 rs'
        (past ++ errands.filterMap Errand.visit?) := by
  induction errands generalizing m t rs past with
  | nil =>
      rw [List.filterMap_nil, List.append_nil]
      exact ⟨rfl, rs, h⟩
  | cons errand errands ih =>
      have hlater := fun e he => hc e (List.mem_cons_of_mem _ he)
      cases errand with
      | visit v =>
          rw [List.filterMap_cons_some (f := Errand.visit?) rfl] at hf ⊢
          have hv : v ∈ past ++ v :: errands.filterMap Errand.visit? :=
            List.mem_append_right _ List.mem_cons_self
          have hfew : past.length ≤ Cursor.limit := by
            have hall := hf.few
            rw [List.length_append] at hall
            omega
          have hnew : ∀ i, ¬Visits.Offered past (v.clock i).freshId :=
            Visits.not_offered hf.fresh List.mem_cons_self
          obtain ⟨hsame, rs₁, h₁⟩ := h.visit hfew (hf.readings v hv) (hf.inEra v hv) hnew
            (hc _ List.mem_cons_self)
          have hsplit : past ++ v :: errands.filterMap Errand.visit? =
              (past ++ [v]) ++ errands.filterMap Errand.visit? := by
            rw [List.append_assoc, List.singleton_append]
          rw [hsplit] at hf ⊢
          obtain ⟨hrest, hend⟩ := ih h₁ hf hlater
          exact ⟨congrArg₂ List.cons hsame hrest, hend⟩
      | ask moment question =>
          rw [List.filterMap_cons_none (f := Errand.visit?) rfl] at hf ⊢
          have hfew : past.length ≤ Cursor.limit := by
            have hall := hf.few
            rw [List.length_append] at hall
            omega
          obtain ⟨hsame, h₁⟩ := h.ask hfew (hc _ List.mem_cons_self)
          obtain ⟨hrest, hend⟩ := ih h₁ hf hlater
          exact ⟨congrArg₂ List.cons hsame hrest, hend⟩

/-- **A list and a table answer any errands alike** from the opening on, tell listeners the same, and at
the end the table holds the rows of the records in the list. -/
theorem attendAll_alike (config : Config) (validator : Manifest.Validator) (events : Broadcast Event)
    {errands : List Errand} (hf : Visits.Fair (errands.filterMap Errand.visit?))
    (hc : ∀ errand ∈ errands, errand.Comparable) :
    let list := attendAll ⟨config, validator, ({} : Memory), events⟩ errands
    let table := attendAll ⟨config, validator, ({} : Rows), events⟩ errands
    list.1 = table.1 ∧ list.2.events = table.2.events ∧
      table.2.store.rows = list.2.store.records.map Row.ofRecord := by
  intro list table
  have hopening : Alike config validator ⟨config, validator, ({} : Memory), events⟩
      ⟨config, validator, ({} : Rows), events⟩ [] [] :=
    ⟨kept_opening Memory.keeps_empty _ _ _, kept_opening Rows.keeps_empty _ _ _, rfl⟩
  obtain ⟨hsame, rs, h⟩ := hopening.attendAll hf hc
  refine ⟨hsame, h.events, ?_⟩
  rw [h.store_table, h.store_list]

/-- A first version, one that takes its place, an edit of the first one, and questions between them. -/
def errands : List Errand :=
  [.visit firstVisit, .ask ⟨.epoch, ⟨0⟩⟩ (.versions "a/b"),
    .visit ⟨fun _ => ⟨.epoch, ⟨1⟩⟩,
      .publish { manifest := Race.manifest "2.0.0" "" } { subject := "s" }⟩,
    .visit ⟨fun _ => ⟨.epoch, ⟨2⟩⟩,
      .edit ⟨0⟩ { manifest := Race.manifest "1.0.0" "edited" } { subject := "s" }⟩,
    .ask ⟨.epoch, ⟨0⟩⟩ (.list { updatedSince := some .epoch } (some "?") 0),
    .ask ⟨.epoch, ⟨0⟩⟩ (.get ⟨0⟩)]

/-- A faulty cursor is refused by both, and both end with the edited version demoted. -/
theorem attendAll_alike_errands :
    Visits.Fair (errands.filterMap Errand.visit?) ∧ (∀ errand ∈ errands, errand.Comparable) ∧
    let list := attendAll ⟨{}, fun _ => none, ({} : Memory), { room := 1 }⟩ errands
    let table := attendAll ⟨{}, fun _ => none, ({} : Rows), { room := 1 }⟩ errands
    list.2.store.records.map (fun r => (r.version, r.manifest.description, r.isLatest)) =
      [("1.0.0", "edited", false), ("2.0.0", "", true)] ∧
    list.1 = table.1 ∧ list.2.events = table.2.events ∧
      table.2.store.rows = list.2.store.records.map Row.ofRecord := by
  have hone : ∀ v ∈ errands.filterMap Errand.visit?, ∀ i, (v.clock i).now = .epoch := by
    intro v hv i
    simp only [errands, List.filterMap_cons, List.filterMap_nil, Errand.visit?, List.mem_cons,
      List.not_mem_nil, or_false] at hv
    rcases hv with rfl | rfl | rfl <;> rfl
  have hf : Visits.Fair (errands.filterMap Errand.visit?) := by
    refine ⟨?_, ?_, ?_, by decide⟩
    · intro v hv i
      rw [hone v hv i]
      decide
    · intro v hv i
      rw [hone v hv i]
      decide
    · have hvisits : errands.filterMap Errand.visit? = [firstVisit,
          ⟨fun _ => ⟨.epoch, ⟨1⟩⟩,
            .publish { manifest := Race.manifest "2.0.0" "" } { subject := "s" }⟩,
          ⟨fun _ => ⟨.epoch, ⟨2⟩⟩,
            .edit ⟨0⟩ { manifest := Race.manifest "1.0.0" "edited" } { subject := "s" }⟩] := rfl
      rw [hvisits]
      simp [firstVisit]
  have hc : ∀ errand ∈ errands, errand.Comparable := by
    intro errand herrand
    simp only [errands, List.mem_cons, List.not_mem_nil, or_false] at herrand
    rcases herrand with rfl | rfl | rfl | rfl | rfl | rfl
    · rfl
    · trivial
    · rfl
    · rfl
    · intro since hsince
      obtain rfl := Option.some_inj.1 hsince
      decide
    · trivial
  exact ⟨hf, hc, by decide +kernel, attendAll_alike {} (fun _ => none) { room := 1 } hf hc⟩

end Registry

end ManifestRegistry
