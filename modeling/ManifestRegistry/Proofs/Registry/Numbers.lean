/-
**Registries on stores that keep numbers.**

A registry runs on a list or a table that keeps the sequence numbers of what it holds.  It is told apart by
nobody from a registry on a store that has nothing but places: a call of a job comes to the same on both, so
a visit does, and so does one errand after the other.  An errand adds one record at most, so the numbers of a
table last for as many errands as there are numbers.

Main definitions:

* `Storage.Numbers` — a way to number what a store holds, up to so many records;
* `Registry.numbering` — a registry with its store numbered.

Main results:

* `Storage.Series.numbers`, `Storage.Table.numbers` — lists and tables can be numbered;
* `Registry.visited_numbering`, `Registry.respond_numbering` — a visit or a question comes to the same;
* `Registry.attendAll_numbered` — **so do errands one after the other**, from an empty list or table on.
-/

import ManifestRegistry.Proofs.Registry.Isolation
import ManifestRegistry.Proofs.Registry.TwoWrite
import ManifestRegistry.Proofs.Storage.Numbers

set_option relaxedAutoImplicit false
set_option autoImplicit false

namespace ManifestRegistry

open Service

namespace Storage

/-- A way to number what a store holds: as long as it has fewer than so many records, calls to the numbered
store come to what they come to without numbers. -/
structure Numbers {σ τ : Type} [Store σ] [Store τ] (f : τ → σ) (bound : Nat) : Prop where
  size (t : τ) : Store.size (f t) = Store.size t
  call (t : τ) (h : Store.size t < bound) (c : Call) (now : Instant) :
    Store.call c now (f t) = ((Store.call c now t).1, f (Store.call c now t).2)

theorem Series.numbers (bound : Nat) : Numbers Series.ofMemory bound where
  size m := by
    show (Memory.sequenced m.records).length = m.records.length
    rw [Memory.sequenced, List.length_map, List.length_zipIdx]
  call m _ c now := call_ofMemory c now m

theorem Table.numbers : Numbers Table.ofRows Table.largest where
  size t := by
    show (Rows.sequenced t.rows).length = t.rows.length
    rw [Rows.sequenced, List.length_map, List.length_zipIdx]
  call _ h _ now := call_ofRows (Nat.le_of_lt h) (fun _ => h) now

end Storage

open Storage

/-- A call of a job comes to the same. -/
theorem Service.Job.turn_numbered {σ τ : Type} [Store σ] [Store τ] {f : τ → σ} {bound : Nat}
    (h : Numbers f bound) {t : τ} (ht : Store.size t < bound) (job : Job) (moment : Moment) :
    job.turn moment (f t) = ((job.turn moment t).1, f (job.turn moment t).2) := by
  cases job with
  | publish p progress =>
      cases progress with
      | finished change => rfl
      | running phase =>
          have hcall := h.call t ht (Publish.ask phase) moment.now
          exact congrArg (fun result : Reply (Publish.ask phase).Answer × σ =>
            (Job.publish p (p.receive phase moment result.1), result.2)) hcall
  | edit e progress =>
      cases progress with
      | finished change => rfl
      | running phase =>
          have hcall := h.call t ht (e.ask phase) moment.now
          exact congrArg (fun result : Reply (e.ask phase).Answer × σ =>
            (Job.edit e (e.receive phase moment result.1), result.2)) hcall

namespace Registry

variable {σ τ : Type}

/-- A registry with its store numbered. -/
def numbering (f : τ → σ) (r : Registry τ) : Registry σ := ⟨r.config, r.validator, f r.store, r.events⟩

variable [Store σ] [Store τ] [Modest τ] {f : τ → σ} {bound : Nat} {r : Registry τ}

section

variable (h : Numbers f bound) (hroom : Store.size r.store < bound)
include h hroom

/-! ### Visits -/

/-- **A visit comes to the same.** -/
theorem visited_numbering (v : Visit) :
    (r.numbering f).visited v = ((r.visited v).1, (r.visited v).2.numbering f) := by
  have hstep : ∀ i (job : Job) (s : σ) (t : τ), s = f t ∧ (job.IsDone ∨ Store.size t < bound) →
      (job.turn (v.clock i) s).1 = (job.turn (v.clock i) t).1 ∧
        (job.turn (v.clock i) s).2 = f (job.turn (v.clock i) t).2 ∧
          ((job.turn (v.clock i) t).1.IsDone ∨ Store.size (job.turn (v.clock i) t).2 < bound) := by
    rintro i job s t ⟨rfl, hdone | ht⟩
    · rw [Job.turn_of_isDone hdone, Job.turn_of_isDone hdone]
      exact ⟨rfl, rfl, .inl hdone⟩
    · rw [job.turn_numbered h ht]
      refine ⟨rfl, rfl, ?_⟩
      -- a call that adds a record is the last one of its job
      rcases job.size_turn (v.clock i) t with hsize | ⟨hdone, -⟩
      · exact .inr (Nat.lt_of_le_of_lt hsize ht)
      · exact .inl hdone
  obtain ⟨hsame, job, hend, -⟩ : (r.numbering f).account v = r.account v ∧ ∃ job : Job,
      ((r.numbering f).serve v).store = f (r.serve v).store ∧
        (job.IsDone ∨ Store.size (r.serve v).store < bound) :=
    visited_together (fun job s t => s = f t ∧ (job.IsDone ∨ Store.size t < bound)) rfl rfl
      (h.size r.store) hstep ⟨rfl, .inr hroom⟩
  rw [(r.numbering f).visited_eq v, r.visited_eq v, hsame, visited_snd, visited_snd, hend]
  rcases r.account v with _ | ⟨_, _⟩ <;> rfl

/-! ### Questions -/

omit [Modest τ] in
theorem ask_numbering (now : Instant) (c : Call) :
    (r.numbering f).ask now c = ((r.ask now c).1, (r.ask now c).2.numbering f) := by
  have hcall := h.call r.store hroom c now
  simp only [ask, Registry.call, within_eq_call]
  rw [show (r.numbering f).store = f r.store from rfl, hcall]
  rfl

theorem versions_numbering (moment : Moment) (name : String) :
    (r.numbering f).versions moment name =
      ((r.versions moment name).1, (r.versions moment name).2.numbering f) := by
  obtain ⟨hsame, -, hend, -⟩ := Collect.machine.runAt_together
    (fun _ => (r.numbering f).call moment.now) (fun _ => r.call moment.now) (fun _ => moment)
    (fun _ s t => s = f t ∧ Store.size t < bound)
    (fun _ c s t hrel => by
      obtain ⟨rfl, ht⟩ := hrel
      have hcall := h.call t ht c.ask moment.now
      refine ⟨?_, congrArg Prod.snd hcall, Nat.lt_of_le_of_lt (Modest.size_call rfl moment.now t) ht⟩
      exact congrArg (fun result => c.receive moment result.1) hcall)
    (Collect.rounds (PacedStore.size r.store)) 0 (.running (Publish.lookup r.config name)) ⟨rfl, hroom⟩
  have hsize : PacedStore.size (r.numbering f).store = PacedStore.size r.store := h.size r.store
  rw [Registry.versions, Registry.versions, Machine.run, Machine.run, hsize]
  refine Prod.ext ?_ ?_
  · exact congrArg (fun reply => named name (ofReply (Option.getD reply (.error .crashed)))) hsame
  · exact congrArg (fun s => (⟨r.config, r.validator, s, r.events⟩ : Registry σ)) hend

/-- **A question is answered alike.** -/
theorem respond_numbering (moment : Moment) (question : Question) :
    (r.numbering f).respond moment question =
      ((r.respond moment question).1, (r.respond moment question).2.numbering f) := by
  cases question with
  | list filter cursor limit =>
      have hask := ask_numbering h hroom moment.now (.list filter cursor (r.config.pageSize limit))
      exact congrArg (fun answer => (Response.page answer.1, answer.2)) hask
  | get id =>
      have hask := ask_numbering h hroom moment.now (.getById id)
      exact congrArg (fun answer =>
        (Response.record (found ("server " ++ id.text) answer.1), answer.2)) hask
  | getVersion id version =>
      have hask := ask_numbering h hroom moment.now (.getVersion id version)
      exact congrArg (fun answer =>
        (Response.record (found ("server " ++ id.text ++ " version " ++ version) answer.1), answer.2)) hask
  | versions name =>
      have hversions := versions_numbering h hroom moment name
      exact congrArg (fun answer => (Response.records answer.1, answer.2)) hversions

/-! ### Errands -/

theorem attend_numbering (errand : Errand) :
    (r.numbering f).attend errand = ((r.attend errand).1, (r.attend errand).2.numbering f) := by
  cases errand with
  | visit v => rw [attend_visit, attend_visit, visited_numbering h hroom v]
  | ask moment question => exact respond_numbering h hroom moment question

end

/-- **Errands one after the other come to the same**, as long as there are numbers for what they add. -/
theorem attendAll_numbering (h : Numbers f bound) {errands : List Errand}
    (hroom : Store.size r.store + errands.length ≤ bound) :
    (r.numbering f).attendAll errands = ((r.attendAll errands).1, (r.attendAll errands).2.numbering f) := by
  induction errands generalizing r with
  | nil => rfl
  | cons errand errands ih =>
      rw [List.length_cons] at hroom
      have hsize := r.size_attend errand
      have hrest := ih (r := (r.attend errand).2) (by omega)
      simp only [attendAll, attend_numbering h (r := r) (by omega) errand, hrest]

/-- **Nobody can tell whether numbers are kept.**  From an empty list or table on, errands one after the other
are answered the same, listeners are told the same, and what is stored is the same, with its places as
numbers; with a table, for as many errands as there are numbers. -/
theorem attendAll_numbered (config : Config) (validator : Manifest.Validator) (events : Broadcast Event)
    (errands : List Errand) :
    (let list := attendAll ⟨config, validator, ({} : Memory), events⟩ errands;
      attendAll ⟨config, validator, ({} : Series), events⟩ errands =
        (list.1, list.2.numbering Series.ofMemory)) ∧
    (errands.length ≤ Table.largest →
      let table := attendAll ⟨config, validator, ({} : Rows), events⟩ errands
      attendAll ⟨config, validator, ({} : Table), events⟩ errands =
        (table.1, table.2.numbering Table.ofRows)) := by
  refine ⟨?_, fun hfew => ?_⟩
  · exact attendAll_numbering (r := ⟨config, validator, ({} : Memory), events⟩)
      (Series.numbers errands.length) (Nat.le_of_eq (Nat.zero_add _))
  · exact attendAll_numbering (r := ⟨config, validator, ({} : Rows), events⟩) Table.numbers
      (Nat.le_trans (Nat.le_of_eq (Nat.zero_add _)) hfew)

end Registry

end ManifestRegistry
