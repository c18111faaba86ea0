/-
**Two writes are as good as one, as long as nobody is in between.**

A registry whose commits are two writes and one that keeps a list of records are asked the same things, one
after the other, at the same moments and under the same identities.  Most calls of a publish or an edit are
answered alike by themselves.  A commit is not: if a list refuses it, half of it may be done where there
are two writes.  But a publish that is alone with the records plans its commit from exactly the versions
there are, so the list carries it out, and then the two writes come to the same.

Main definitions:

* `Service.Job.due?` — the call that a job is about to make;
* `Service.Job.Informed` — a publish that knows the versions there are;
* `Registry.Abreast` — the two stores in the middle of a visit;
* `Registry.Parallel` — **the two registries between two errands**.

Main results:

* `Service.Machine.runAt_together` — what a task comes to on two stores that stay together;
* `Service.Job.Informed.turn` — a publish that is alone stays informed;
* `Service.Job.matches_due` — **a call of a job is answered alike** if it is informed;
* `Registry.Parallel.visit`, `Registry.Parallel.respond` — so is every errand;
* `Registry.attendAll_two_writes` — **so are errands one after the other**, and the records are the same
  after each of them.
-/

import ManifestRegistry.Proofs.Registry.Alike
import ManifestRegistry.Proofs.Registry.Upshots
import ManifestRegistry.Proofs.Service.Attempts
import ManifestRegistry.Proofs.Storage.TwoWrite

set_option relaxedAutoImplicit false
set_option autoImplicit false

namespace ManifestRegistry

open Storage Storage.TwoWrite

namespace Service

theorem Machine.runAt_running {τ ρ α : Type} (m : Machine τ ρ)
    (call : Instant → (c : Call) → α → Reply c.Answer × α) (clock : Nat → Moment) (rounds made : Nat)
    (state : τ) (a : α) : m.runAt call clock (rounds + 1) made (.running state) a =
      m.runAt call clock rounds (made + 1) (m.step (call (clock made).now) (clock made) state a).1
        (m.step (call (clock made).now) (clock made) state a).2 := rfl

/-- **What a task comes to on two stores that stay together** is the same, whatever the relation between
them is by which its calls are answered alike. -/
theorem Machine.runAt_together {τ ρ α β : Type} (m : Machine τ ρ)
    (call : Instant → (c : Call) → α → Reply c.Answer × α)
    (call' : Instant → (c : Call) → β → Reply c.Answer × β) (clock : Nat → Moment)
    (Rel : Progress τ ρ → α → β → Prop)
    (hstep : ∀ i state a b, Rel (.running state) a b →
      (m.step (call (clock i).now) (clock i) state a).1 =
          (m.step (call' (clock i).now) (clock i) state b).1 ∧
        Rel (m.step (call' (clock i).now) (clock i) state b).1
          (m.step (call (clock i).now) (clock i) state a).2
          (m.step (call' (clock i).now) (clock i) state b).2)
    (rounds made : Nat) (progress : Progress τ ρ) {a : α} {b : β} (h : Rel progress a b) :
    (m.runAt call clock rounds made progress a).1 = (m.runAt call' clock rounds made progress b).1 ∧
      ∃ progress', Rel progress' (m.runAt call clock rounds made progress a).2
        (m.runAt call' clock rounds made progress b).2 := by
  induction rounds generalizing made progress a b with
  | zero => cases progress <;> exact ⟨rfl, _, h⟩
  | succ rounds ih =>
      cases progress with
      | finished r => exact ⟨rfl, _, h⟩
      | running state =>
          obtain ⟨hsame, hnext⟩ := hstep made state a b h
          rw [runAt_running, runAt_running, hsame]
          exact ih (made + 1) _ hnext

namespace Job

/-- The call that a job is about to make; one that is done makes none. -/
def due? : Job → Option Call
  | .publish _ (.running phase) => some (Publish.ask phase)
  | .edit e (.running phase) => some (e.ask phase)
  | _ => none

/-- A publish that is reading versions or about to commit one knows the versions there are. -/
def Informed (legible : Bag → Prop) (rs : List Record) : Job → Prop
  | .publish p (.running (.lookup left c)) => p.Current legible rs (.lookup left c)
  | .publish p (.running (.commit left plan)) => p.Current legible rs (.commit left plan)
  | _ => True

variable {t : TwoWrite} {m : Memory} {rs : List Record} {moment : Moment} {job : Job} {c : Call}

/-! ### Publishes that are alone -/

/-- A publish that has not read any version knows those that it has read. -/
theorem informed_of_opened (legible : Bag → Prop) (rs : List Record) {p : Publish}
    {progress : Progress Publish.Phase Change} (h : p.Opened progress) :
    (publish p progress).Informed legible rs := by
  cases h with
  | lookup left => exact Publish.current_lookup legible rs p left
  | _ => trivial

theorem informed_job (legible : Bag → Prop) (rs : List Record) (request : Request) :
    request.job.Informed legible rs := by
  cases request with
  | publish p => exact informed_of_opened legible rs Publish.opened_start
  | edit e => trivial

/-- **A publish that is alone stays informed**: what it is shown are the versions there are. -/
theorem Informed.turn {σ : Type} [Store σ] [Ledger σ] [Catalog σ] [Candid σ] {s : σ}
    (h : job.Informed (Ledger.Legible σ) rs) (hk : Ledger.Keeps s rs) (hr : ∀ r ∈ rs, r.IsDated)
    (moment : Moment) : (job.turn moment s).1.Informed (Ledger.Legible σ) rs := by
  cases job with
  | edit e progress => cases progress <;> trivial
  | publish p progress =>
      cases progress with
      | finished change => trivial
      | running phase =>
          show (publish p (p.receive phase moment (Store.call (Publish.ask phase) moment.now s).1)).Informed
            (Ledger.Legible σ) rs
          cases phase with
          | quota q => exact informed_of_opened _ rs (Publish.opened_receive_quota q moment _)
          | ownership o => exact informed_of_opened _ rs (Publish.opened_receive_ownership o moment _)
          | lookup left c =>
              show (publish p (p.receive (.lookup left c) moment
                (Store.call (.list c.filter c.cursor c.pageSize) moment.now s).1)).Informed _ rs
              cases hto : p.receive (.lookup left c) moment
                  (Store.call (.list c.filter c.cursor c.pageSize) moment.now s).1 with
              | finished change => trivial
              | running phase =>
                  have hcurrent : p.Current (Ledger.Legible σ) rs phase := h.receive_lookup hk hr hto
                  cases phase with
                  | quota | ownership => trivial
                  | lookup | commit => exact hcurrent
          | commit left plan =>
              show (publish p (p.receive (.commit left plan) moment
                (Store.call (.commit plan.record plan.demoted) moment.now s).1)).Informed _ rs
              rcases Publish.receive_commit (p := p) left plan moment
                (Store.call (.commit plan.record plan.demoted) moment.now s).1 with
                ⟨created, -, hto⟩ | ⟨-, hopened⟩
              · rw [hto]
                trivial
              · exact informed_of_opened _ rs hopened

/-! ### One call -/

/-- **A call of a job is answered alike** if the job is informed: a list carries its commit out. -/
theorem matches_due (hm : Mirrors t m) (hk : Ledger.Keeps m rs) (ho : Orderly rs)
    (hs : job.Sound (rs.map Record.imprint)) (hi : job.Informed (Ledger.Legible Memory) rs)
    (hown : ∀ id name, job.claim = some (id, name) →
      ∀ x ∈ rs.map Record.imprint, x.id = id → x.name = name)
    (hc : job.due? = some c) (now : Instant) : Matches (Store.call c now t) (Store.call c now m) := by
  cases job with
  | publish p progress =>
      cases progress with
      | finished change => cases hc
      | running phase =>
          obtain rfl := Option.some_inj.1 hc
          cases phase with
          | quota | ownership | lookup =>
              refine matches_call hm ?_ now
              trivial
          | commit left plan =>
              obtain ⟨hopen, rfl⟩ := hk
              have hcurrent : p.Current (Ledger.Legible Memory) m.records (.commit left plan) := hi
              obtain ⟨rs', hcommitted⟩ := hcurrent.committed ho
              exact matches_commit hm hopen ho.distinct (hown _ _ rfl)
                (fun d hd => (hs.1.demotion d hd).1) hcommitted now
  | edit e progress =>
      cases progress with
      | finished change => cases hc
      | running phase =>
          obtain rfl := Option.some_inj.1 hc
          refine matches_call hm ?_ now
          cases phase <;> trivial

/-- A job whose call is answered alike goes on alike. -/
theorem matches_turn (hm : Mirrors t m) (h : ∀ c, job.due? = some c →
    Matches (Store.call c moment.now t) (Store.call c moment.now m)) :
    Matches (job.turn moment t) (job.turn moment m) := by
  cases job with
  | publish p progress =>
      cases progress with
      | finished change => exact ⟨rfl, hm⟩
      | running phase =>
          obtain ⟨hsame, hm'⟩ := h _ rfl
          exact ⟨congrArg (fun reply => publish p (p.receive phase moment reply)) hsame, hm'⟩
  | edit e progress =>
      cases progress with
      | finished change => exact ⟨rfl, hm⟩
      | running phase =>
          obtain ⟨hsame, hm'⟩ := h _ rfl
          exact ⟨congrArg (fun reply => edit e (e.receive phase moment reply)) hsame, hm'⟩

end Job

end Service

open Service

namespace Registry

/-- **A visit comes to the same in two registries** whose stores stay together at each call of the job. -/
theorem visited_together {σ τ : Type} [Store σ] [Store τ] {r : Registry σ} {r' : Registry τ} {v : Visit}
    (Rel : Job → σ → τ → Prop) (hconfig : r.config = r'.config) (hvalidator : r.validator = r'.validator)
    (hsize : PacedStore.size r.store = PacedStore.size r'.store)
    (hstep : ∀ i job s s', Rel job s s' →
      (job.turn (v.clock i) s).1 = (job.turn (v.clock i) s').1 ∧
        Rel (job.turn (v.clock i) s').1 (job.turn (v.clock i) s).2 (job.turn (v.clock i) s').2)
    (h : Rel (v.demand.request r'.config r'.validator).job r.store r'.store) :
    r.account v = r'.account v ∧ ∃ job, Rel job (r.serve v).store (r'.serve v).store := by
  obtain ⟨config, validator, store, events⟩ := r
  obtain ⟨_, _, store', events'⟩ := r'
  cases hconfig
  cases hvalidator
  let r : Registry σ := ⟨config, validator, store, events⟩
  let r' : Registry τ := ⟨config, validator, store', events'⟩
  obtain ⟨clock, demand⟩ := v
  cases demand with
  | publish submission publisher =>
      let p : Publish := ⟨config, validator, submission, publisher⟩
      obtain ⟨hsame, progress, hend⟩ := p.machine.runAt_together r.call r'.call clock
        (fun progress s s' => Rel (.publish p progress) s s')
        (fun i state s s' hs => by
          obtain ⟨hgo, hnext⟩ := hstep i _ s s' hs
          exact ⟨(Job.publish.inj hgo).2, hnext⟩)
        (p.rounds (PacedStore.size store')) 0 p.start h
      refine ⟨?_, .publish p progress, ?_⟩
      · show (p.machine.runAt r.call clock (p.rounds (PacedStore.size store)) 0 p.start store).1.getD _ = _
        rw [hsize, hsame]
        rfl
      · simp only [serve, publishAt, change_eq, concluded_store]
        rw [hsize]
        exact hend
  | edit id submission editor =>
      let e : Edit := ⟨config, validator, id, submission, editor⟩
      obtain ⟨hsame, progress, hend⟩ := e.machine.runAt_together r.call r'.call clock
        (fun progress s s' => Rel (.edit e progress) s s')
        (fun i state s s' hs => by
          obtain ⟨hgo, hnext⟩ := hstep i _ s s' hs
          exact ⟨(Job.edit.inj hgo).2, hnext⟩)
        (e.rounds (PacedStore.size store')) 0 e.start h
      refine ⟨?_, .edit e progress, ?_⟩
      · show (e.machine.runAt r.call clock (e.rounds (PacedStore.size store)) 0 e.start store).1.getD _ = _
        rw [hsize, hsame]
        rfl
      · simp only [serve, editAt, change_eq, concluded_store]
        rw [hsize]
        exact hend

/-! ### In the middle of a visit -/

/-- A list that kept `rs` before a visit and a two-write store, in the middle of the visit: the store
mirrors the list, and the job is done or has changed nothing yet and is informed. -/
structure Abreast (clock : Nat → Moment) (rs : List Record) (job : Job) (t : TwoWrite) (m : Memory) :
    Prop where
  mirrors : Mirrors t m
  going : ¬job.IsDone → Ledger.Keeps m rs ∧ job.Aware Memory clock rs ∧
    job.Informed (Ledger.Legible Memory) rs

variable {t : TwoWrite} {m : Memory} {rs : List Record} {past : List Visit} {v : Visit} {job : Job}

/-- **A call of a visit keeps the stores abreast**, and the job goes on alike. -/
theorem Abreast.turn (h : Abreast v.clock rs job t m) {s : Memory} (hl : Lasting s rs past)
    (ho : Orderly rs) (hread : ∀ i, (v.clock i).now.IsReading)
    (hnew : ∀ i, ¬Visits.Offered past (v.clock i).freshId) (i : Nat) :
    (job.turn (v.clock i) t).1 = (job.turn (v.clock i) m).1 ∧
      Abreast v.clock rs (job.turn (v.clock i) m).1 (job.turn (v.clock i) t).2
        (job.turn (v.clock i) m).2 := by
  by_cases hdone : job.IsDone
  · rw [Job.turn_of_isDone hdone, Job.turn_of_isDone hdone]
    exact ⟨rfl, h⟩
  · obtain ⟨hk, haware, hinformed⟩ := h.going hdone
    have hown : ∀ id name, job.claim = some (id, name) →
        ∀ x ∈ rs.map Record.imprint, x.id = id → x.name = name := by
      intro id name hc x hx hid
      exact hl.claim_name hnew (haware.claim hc) hx hid
    obtain ⟨hsame, hmirrors⟩ := Job.matches_turn h.mirrors fun c hc =>
      Job.matches_due h.mirrors hk ho (haware.sound hl.dated hread) hinformed hown hc (v.clock i).now
    refine ⟨hsame, hmirrors, ?_⟩
    intro hgoing
    obtain ⟨rs', hk', hcourse⟩ := haware.turn hk hl.distinct hl.dated hread i
    rcases hcourse with ⟨rfl, haware'⟩ | ⟨hdone', -⟩
    · exact ⟨hk', haware', hinformed.turn hk hl.dated _⟩
    · exact absurd hdone' hgoing

/-! ### Between two errands -/

/-- A registry whose commits are two writes and one that keeps a list of records, after the same visits:
both have told listeners the same, one store mirrors the other, and the records are orderly. -/
structure Parallel (two : Registry TwoWrite) (list : Registry Memory) (past : List Visit) : Prop where
  config : two.config = list.config
  validator : two.validator = list.validator
  events : two.events = list.events
  mirrors : Mirrors two.store list.store
  lasting : Lasting list.store list.store.records past
  orderly : Orderly list.store.records

variable {two : Registry TwoWrite} {list : Registry Memory}

theorem parallel_opening (config : Config) (validator : Manifest.Validator)
    (events : Broadcast Event) : Parallel ⟨config, validator, ({} : TwoWrite), events⟩
      ⟨config, validator, ({} : Memory), events⟩ [] :=
  ⟨rfl, rfl, rfl, ⟨rfl, rfl⟩, lasting_opening Memory.keeps_empty, .nil⟩

/-- Tasks may make as many calls in one as in the other. -/
theorem Parallel.size (h : Parallel two list past) :
    PacedStore.size two.store = PacedStore.size list.store := by
  rw [← h.mirrors.inner]
  rfl

/-- **What a visit comes to is the same.** -/
theorem Parallel.account (h : Parallel two list past) (hread : ∀ i, (v.clock i).now.IsReading)
    (hnew : ∀ i, ¬Visits.Offered past (v.clock i).freshId) :
    two.account v = list.account v ∧ Mirrors (two.serve v).store (list.serve v).store := by
  obtain ⟨hsame, job, hend⟩ := visited_together
    (Abreast v.clock list.store.records) h.config h.validator h.size
    (fun i job t m habreast => habreast.turn h.lasting h.orderly hread hnew i)
    ⟨h.mirrors, fun _ => ⟨h.lasting.keeps, Job.aware_job _, Job.informed_job _ _ _⟩⟩
  exact ⟨hsame, hend.mirrors⟩

/-- **A visit is answered alike**, and leaves the registries parallel. -/
theorem Parallel.visit (h : Parallel two list past) (hread : ∀ i, (v.clock i).now.IsReading)
    (hnew : ∀ i, ¬Visits.Offered past (v.clock i).freshId) :
    (two.visited v).1 = (list.visited v).1 ∧
      Parallel (two.visited v).2 (list.visited v).2 (past ++ [v]) := by
  obtain ⟨hsame, hmirrors⟩ := h.account hread hnew
  obtain ⟨s, rs', hk, hupshot, hvisit⟩ :=
    visited_upshot h.lasting.keeps h.lasting.distinct h.lasting.dated hread
  have hstore : (list.serve v).store = s := by rw [← visited_snd, hvisit, concluded_store]
  have hrecords : s.records = rs' := hk.2
  rw [two.visited_eq v, list.visited_eq v, hsame, visited_snd, visited_snd]
  refine ⟨by rw [concluded_fst, concluded_fst], ?_⟩
  constructor
  · rw [concluded_config, concluded_config, h.config]
  · rw [concluded_validator, concluded_validator, h.validator]
  · cases list.account v with
    | error stop => exact h.events
    | ok result => simp only [concluded, emit, h.events]
  · rwa [concluded_store, concluded_store]
  · rw [concluded_store, hstore, hrecords]
    exact h.lasting.upshot hupshot hread hnew hk
  · rw [concluded_store, hstore, hrecords]
    exact h.lasting.orderly hupshot hread hnew h.orderly

/-! ### Questions -/

/-- Registries with stores that mirror each other stay parallel if the list is left as it is. -/
theorem Parallel.with_store (h : Parallel two list past) (hm : Mirrors t list.store) :
    Parallel { two with store := t } list past :=
  ⟨h.config, h.validator, h.events, hm, h.lasting, h.orderly⟩

/-- A call that leaves a list as it is is answered alike, and leaves the registries parallel. -/
theorem Parallel.ask (h : Parallel two list past) (now : Instant) {c : Call} (hc : c.IsSingle)
    (hkept : (Store.call c now list.store).2 = list.store) :
    (two.ask now c).1 = (list.ask now c).1 ∧ Parallel (two.ask now c).2 (list.ask now c).2 past := by
  obtain ⟨hsame, hm⟩ := matches_call h.mirrors hc now
  rw [hkept] at hm
  rw [Alike.ask_eq list now c hkept]
  exact ⟨congrArg ofReply hsame, h.with_store hm⟩

/-- The versions of a name are read alike, page by page. -/
theorem Parallel.versions (h : Parallel two list past) (moment : Moment) (name : String) :
    (two.versions moment name).1 = (list.versions moment name).1 ∧
      Parallel (two.versions moment name).2 (list.versions moment name).2 past := by
  obtain ⟨config, validator, store, events⟩ := two
  obtain rfl : config = list.config := h.config
  let two : Registry TwoWrite := ⟨list.config, validator, store, events⟩
  obtain ⟨hsame, -, hmirrors, hkept⟩ := Collect.machine.runAt_together
    (fun _ => two.call moment.now) (fun _ => list.call moment.now) (fun _ => moment)
    (fun _ t m => Mirrors t m ∧ m = list.store)
    (fun _ c t m hrel => by
      obtain ⟨hm, hkept⟩ := hrel
      have hc : c.ask.IsSingle := trivial
      obtain ⟨hreply, hm'⟩ := matches_call hm hc moment.now
      exact ⟨congrArg (fun reply => c.receive moment reply) hreply, hm', hkept⟩)
    (Collect.rounds (PacedStore.size list.store)) 0 (.running (Publish.lookup list.config name))
    ⟨h.mirrors, rfl⟩
  rw [Registry.versions, Registry.versions, Machine.run, Machine.run, h.size]
  refine ⟨congrArg (fun reply => named name (ofReply (Option.getD reply (.error .crashed)))) hsame, ?_⟩
  rw [hkept] at hmirrors
  show Parallel { two with store := _ } { list with store := _ } past
  rw [hkept]
  exact h.with_store hmirrors

/-- **A question is answered alike**, and leaves the registries parallel. -/
theorem Parallel.respond (h : Parallel two list past) (moment : Moment) (question : Question) :
    (two.respond moment question).1 = (list.respond moment question).1 ∧
      Parallel (two.respond moment question).2 (list.respond moment question).2 past := by
  cases question with
  | list filter cursor limit =>
      have hlist : two.list moment.now filter cursor limit =
          two.ask moment.now (.list filter cursor (list.config.pageSize limit)) := by
        rw [← h.config]
        rfl
      obtain ⟨hsame, hafter⟩ := h.ask moment.now (c := .list filter cursor (list.config.pageSize limit))
        trivial rfl
      refine ⟨?_, ?_⟩
      · show Response.page (two.list moment.now filter cursor limit).1 = _
        rw [hlist, hsame]
        rfl
      · show Parallel (two.list moment.now filter cursor limit).2 _ past
        rw [hlist]
        exact hafter
  | get id =>
      obtain ⟨hsame, hafter⟩ := h.ask moment.now (c := .getById id) trivial rfl
      exact ⟨congrArg (fun reply => Response.record (found ("server " ++ id.text) reply)) hsame, hafter⟩
  | getVersion id version =>
      obtain ⟨hsame, hafter⟩ := h.ask moment.now (c := .getVersion id version) trivial rfl
      exact ⟨congrArg (fun reply =>
        Response.record (found ("server " ++ id.text ++ " version " ++ version) reply)) hsame, hafter⟩
  | versions name =>
      obtain ⟨hsame, hafter⟩ := h.versions moment name
      exact ⟨congrArg Response.records hsame, hafter⟩

/-! ### Errands one after the other -/

/-- **Errands are attended to alike**, one after the other. -/
theorem Parallel.attendAll (h : Parallel two list past) {errands : List Errand}
    (hread : ∀ v ∈ errands.filterMap Errand.visit?, ∀ i, (v.clock i).now.IsReading)
    (hfresh : (past ++ errands.filterMap Errand.visit?).Pairwise fun u v =>
      ∀ i j, (u.clock i).freshId ≠ (v.clock j).freshId) :
    (two.attendAll errands).1 = (list.attendAll errands).1 ∧
      Parallel (two.attendAll errands).2 (list.attendAll errands).2
        (past ++ errands.filterMap Errand.visit?) := by
  induction errands generalizing two list past with
  | nil =>
      rw [List.filterMap_nil, List.append_nil]
      exact ⟨rfl, h⟩
  | cons errand errands ih =>
      cases errand with
      | visit v =>
          rw [List.filterMap_cons_some (f := Errand.visit?) rfl] at hread hfresh ⊢
          have hnew : ∀ i, ¬Visits.Offered past (v.clock i).freshId :=
            Visits.not_offered hfresh List.mem_cons_self
          obtain ⟨hsame, h₁⟩ := h.visit (hread v List.mem_cons_self) hnew
          have hsplit : past ++ v :: errands.filterMap Errand.visit? =
              (past ++ [v]) ++ errands.filterMap Errand.visit? := by
            rw [List.append_assoc, List.singleton_append]
          rw [hsplit] at hfresh ⊢
          obtain ⟨hrest, hend⟩ := ih h₁ (fun u hu => hread u (List.mem_cons_of_mem _ hu)) hfresh
          rw [Registry.attendAll, Registry.attendAll, attend_visit, attend_visit]
          exact ⟨congrArg₂ List.cons (congrArg Response.record hsame) hrest, hend⟩
      | ask moment question =>
          rw [List.filterMap_cons_none (f := Errand.visit?) rfl] at hread hfresh ⊢
          obtain ⟨hsame, h₁⟩ := h.respond moment question
          obtain ⟨hrest, hend⟩ := ih h₁ hread hfresh
          exact ⟨congrArg₂ List.cons hsame hrest, hend⟩

/-- **Two writes are as good as one** for errands one after the other: from the opening on, a registry
whose commits are two writes responds to each errand what one with a list does, and after each of them it
has told listeners the same and holds the same records under the same numbers. -/
theorem attendAll_two_writes (config : Config) (validator : Manifest.Validator) (events : Broadcast Event)
    {errands : List Errand}
    (hread : ∀ v ∈ errands.filterMap Errand.visit?, ∀ i, (v.clock i).now.IsReading)
    (hfresh : (errands.filterMap Errand.visit?).Pairwise fun u v =>
      ∀ i j, (u.clock i).freshId ≠ (v.clock j).freshId) :
    ∀ before, before <+: errands →
      let two := attendAll ⟨config, validator, ({} : TwoWrite), events⟩ before
      let list := attendAll ⟨config, validator, ({} : Memory), events⟩ before
      two.1 = list.1 ∧ two.2.events = list.2.events ∧
        Memory.sequenced two.2.store.inner.records = Memory.sequenced list.2.store.records := by
  rintro before ⟨after, rfl⟩ two list
  rw [List.filterMap_append] at hread hfresh
  obtain ⟨hsame, h⟩ := (parallel_opening config validator events).attendAll
    (fun v hv => hread v (List.mem_append_left _ hv)) (List.pairwise_append.1 hfresh).1
  exact ⟨hsame, h.events, congrArg (fun m => Memory.sequenced m.records) h.mirrors.inner⟩

/-- A version that is demoted by two writes and edited afterwards is where a list has it. -/
theorem attendAll_two_writes_errands :
    (∀ v ∈ errands.filterMap Errand.visit?, ∀ i, (v.clock i).now.IsReading) ∧
    ((errands.filterMap Errand.visit?).Pairwise fun u v =>
      ∀ i j, (u.clock i).freshId ≠ (v.clock j).freshId) ∧
    let two := attendAll ⟨{}, fun _ => none, ({} : TwoWrite), { room := 1 }⟩ errands
    let list := attendAll ⟨{}, fun _ => none, ({} : Memory), { room := 1 }⟩ errands
    two.2.store.creates = 2 ∧
    two.2.store.inner.records.map (fun r => (r.version, r.manifest.description, r.isLatest)) =
      [("1.0.0", "edited", false), ("2.0.0", "", true)] ∧
    two.1 = list.1 ∧ two.2.events = list.2.events ∧
      Memory.sequenced two.2.store.inner.records = Memory.sequenced list.2.store.records := by
  have hread : ∀ v ∈ errands.filterMap Errand.visit?, ∀ i, (v.clock i).now.IsReading := by
    intro v hv i
    have hnow : (v.clock i).now = .epoch := by
      simp only [errands, List.filterMap_cons, List.filterMap_nil, Errand.visit?, List.mem_cons,
        List.not_mem_nil, or_false] at hv
      rcases hv with rfl | rfl | rfl <;> rfl
    rw [hnow]
    decide
  have hfresh : (errands.filterMap Errand.visit?).Pairwise fun u v =>
      ∀ i j, (u.clock i).freshId ≠ (v.clock j).freshId := by
    simp [errands, List.filterMap_cons, Errand.visit?, firstVisit]
  exact ⟨hread, hfresh, by decide +kernel, by decide +kernel,
    attendAll_two_writes {} (fun _ => none) { room := 1 } hread hfresh errands List.prefix_rfl⟩

end Registry

end ManifestRegistry
