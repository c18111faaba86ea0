/-
**What jobs carry from one call to the next.**

A job carries records: copies of stored versions while it looks them up, a plan made from them, an edited
copy.  If all documents of a store have some durable property, and so has whatever the job makes of
records that have it, then neither the job nor the store ever holds a record without it.  This is so call
by call, whatever others do to the store meanwhile, as long as they keep to the property too.

Main definitions:

* `Service.Job.Carries` — all records that a job carries have a property;
* `Service.Job.Makes` — so does what it makes of such records;
* `Service.Restorable` — a dated record whose bag can be read back.

Main results:

* `Service.Job.Carries.turn`, `Service.World.bears_run` — **a call of a job and a run keep a property** of
  all that is stored and carried;
* `Service.makes_restorable` — what is made for a request can be read, if its bag can.
-/

import ManifestRegistry.Proofs.Service.Edit
import ManifestRegistry.Proofs.Service.Interleaving
import ManifestRegistry.Proofs.Service.Publish
import ManifestRegistry.Proofs.Storage.Cabinet

set_option relaxedAutoImplicit false
set_option autoImplicit false

namespace ManifestRegistry

namespace Service

open Storage

namespace Job

/-- All records that a job carries have a property. -/
def Carries (P : Record → Prop) : Job → Prop
  | .publish _ (.running (.lookup _ c)) => ∀ x ∈ c.records, P x
  | .publish _ (.running (.commit _ plan)) => P plan.record ∧ ∀ d, plan.demoted = some d → P d
  | .edit _ (.running (.save u)) => P u
  | _ => True

/-- What a job makes at some moment has a property, if what it makes it of has. -/
def Makes (P : Record → Prop) (moment : Moment) : Job → Prop
  | .publish p _ => (∀ existing, P (p.record moment existing)) ∧ ∀ l, P l → P (l.demoted moment.now)
  | .edit e _ => ∀ x, P x → P (e.edited moment.now x)

variable {P : Record → Prop} {moment : Moment}

theorem Makes.of_turn {σ : Type} [Store σ] {job : Job} (h : job.Makes P moment) (now : Moment) (s : σ) :
    (job.turn now s).1.Makes P moment := by
  cases job with
  | publish p progress => cases progress <;> exact h
  | edit e progress => cases progress <;> exact h

theorem carries_of_opened {p : Publish} {progress : Progress Publish.Phase Change}
    (h : p.Opened progress) : (publish p progress).Carries P := by
  cases h with
  | lookup left => exact fun x hx => absurd hx List.not_mem_nil
  | _ => trivial

theorem carries_of_opened_edit {e : Edit} {progress : Progress Edit.Phase Change}
    (h : Edit.Opened progress) : (edit e progress).Carries P := by
  cases h <;> trivial

theorem carries_job (request : Request) : request.job.Carries P := by
  cases request with
  | publish p => exact carries_of_opened Publish.opened_start
  | edit e => exact carries_of_opened_edit Edit.opened_start

variable {σ : Type} [Store σ] [Catalog σ] [Cabinet σ] {s : σ}

section

variable (hP : Durable P) (hs : Cabinet.Bears P s)
include hP hs

theorem Carries.turn_lookup {p : Publish} {left : Nat} {c : Collect}
    (hc : (publish p (.running (.lookup left c))).Carries P)
    (hm : (publish p (.running (.lookup left c))).Makes P moment) :
    Cabinet.Bears P ((publish p (.running (.lookup left c))).turn moment s).2 ∧
      ((publish p (.running (.lookup left c))).turn moment s).1.Carries P := by
  have hto := Publish.receive_lookup (p := p) left c moment
    (listing (Catalog.selected s c.filter) c.cursor c.pageSize)
  simp only [turn, Machine.step, Publish.machine, Publish.ask, Collect.ask, within_eq_call,
    Catalog.call_list (Cabinet.isOpen hs)]
  refine ⟨hs, ?_⟩
  rcases hto with ⟨stop, hto⟩ | ⟨page, hpage, hto⟩
  · rw [hto]
    trivial
  -- all that has been read so far has the property, the new page included
  · have hread : ∀ x ∈ c.records ++ page.items, P x := by
      intro x hx
      rcases List.mem_append.1 hx with hx | hx
      · exact hc x hx
      · obtain ⟨n, hn⟩ := mem_of_mem_listing hpage hx
        exact Cabinet.shown hP hs hn
    rcases hto with ⟨cursor, hto⟩ | ⟨existing, hsub, plan, hplan, hto⟩
    · rw [hto]
      exact hread
    · obtain ⟨-, -, rfl⟩ := Publish.plan_eq_ok.1 hplan
      rw [hto]
      refine ⟨hm.1 existing, ?_⟩
      intro d hd
      obtain ⟨l, hl, -, rfl, -⟩ := Publish.demotion_eq_some hd
      exact hm.2 l (hread l (hsub l hl))

omit hP in
theorem Carries.turn_commit {p : Publish} {left : Nat} {plan : Publish.Plan}
    (hc : (publish p (.running (.commit left plan))).Carries P) :
    Cabinet.Bears P ((publish p (.running (.commit left plan))).turn moment s).2 ∧
      ((publish p (.running (.commit left plan))).turn moment s).1.Carries P := by
  have hto := Publish.receive_commit (p := p) left plan moment
    (Store.call (.commit plan.record plan.demoted) moment.now s).1
  simp only [turn, Machine.step, Publish.machine, Publish.ask, within_eq_call]
  refine ⟨Cabinet.commit hs hc.1 hc.2 moment.now, ?_⟩
  rcases hto with ⟨created, -, hto⟩ | ⟨-, hto⟩
  · rw [hto]
    trivial
  · exact carries_of_opened hto

theorem Carries.turn_fetch {e : Edit} (hm : (edit e (.running .fetch)).Makes P moment) :
    Cabinet.Bears P ((edit e (.running .fetch)).turn moment s).2 ∧
      ((edit e (.running .fetch)).turn moment s).1.Carries P := by
  have hto := Edit.receive_fetch (e := e) moment
    (Store.call (.getVersion e.id e.manifest.version) moment.now s).1
  simp only [turn, Machine.step, Edit.machine, Edit.ask, within_eq_call]
  rw [Cabinet.call_getVersion]
  refine ⟨hs, ?_⟩
  rcases hto with ⟨stop, hto⟩ | ⟨x, hx, -, hto⟩
  · rw [hto]
    trivial
  · rw [hto]
    exact hm x (Cabinet.found hP hs hx)

omit hP in
theorem Carries.turn_save {e : Edit} {u : Record} (hc : (edit e (.running (.save u))).Carries P) :
    Cabinet.Bears P ((edit e (.running (.save u))).turn moment s).2 ∧
      ((edit e (.running (.save u))).turn moment s).1.Carries P := by
  have hto := Edit.receive_save (e := e) u moment (Store.call (.update e.id u) moment.now s).1
  simp only [turn, Machine.step, Edit.machine, Edit.ask, within_eq_call]
  refine ⟨Cabinet.update hs hc moment.now, ?_⟩
  rcases hto with ⟨saved, -, hto⟩ | ⟨-, stop, hto⟩
  all_goals
    rw [hto]
    trivial

/-- **A call of a job keeps a property** of all that is stored and carried. -/
theorem Carries.turn {job : Job} (hc : job.Carries P) (hm : job.Makes P moment) :
    Cabinet.Bears P (job.turn moment s).2 ∧ (job.turn moment s).1.Carries P := by
  have hopen := Cabinet.isOpen hs
  cases job with
  | publish p progress =>
      cases progress with
      | finished r => exact ⟨hs, trivial⟩
      | running phase =>
          cases phase with
          | quota q =>
              refine ⟨?_, carries_of_opened (Publish.opened_receive_quota q moment _)⟩
              simp only [Job.turn, Machine.step, Publish.machine, Publish.ask, Quota.ask,
                within_eq_call]
              rwa [Cabinet.call_countRecent]
          | ownership o =>
              refine ⟨?_, carries_of_opened (Publish.opened_receive_ownership o moment _)⟩
              simp only [Job.turn, Machine.step, Publish.machine, Publish.ask, Ownership.ask,
                within_eq_call, Catalog.call_list hopen]
              exact hs
          | lookup left c => exact Carries.turn_lookup hP hs hc hm
          | commit left plan => exact Carries.turn_commit hs hc
  | edit e progress =>
      cases progress with
      | finished r => exact ⟨hs, trivial⟩
      | running phase =>
          cases phase with
          | ownership o =>
              refine ⟨?_, carries_of_opened_edit (Edit.opened_receive_ownership (e := e) o moment _)⟩
              simp only [Job.turn, Machine.step, Edit.machine, Edit.ask, Ownership.ask,
                within_eq_call, Catalog.call_list hopen]
              exact hs
          | fetch => exact Carries.turn_fetch hP hs hm
          | save u => exact Carries.turn_save hs hc

end

end Job

/-! ### Runs -/

/-- **A run keeps a property** of all that is stored and carried, if nothing without it is made. -/
theorem World.bears_run {P : Record → Prop} {σ : Type} [Store σ] [Catalog σ] [Cabinet σ] {w : World σ}
    {ts : List Turn} (hP : Durable P) (hs : Cabinet.Bears P w.store) (hc : ∀ job ∈ w.jobs, job.Carries P)
    (hm : ∀ t ∈ ts, ∀ job ∈ w.jobs, job.Makes P t.moment) : Cabinet.Bears P (w.run ts).store := by
  induction ts generalizing w with
  | nil => exact hs
  | cons t ts ih =>
      rw [run_cons]
      cases hjob : w.jobs[t.job]? with
      | none =>
          rw [turn_of_none hjob]
          exact ih hs hc fun u hu => hm u (List.mem_cons_of_mem _ hu)
      | some job =>
          have hmem := List.mem_of_getElem? hjob
          obtain ⟨hs', hc'⟩ := (hc job hmem).turn hP hs (hm t List.mem_cons_self job hmem)
          rw [turn_of_some hjob]
          refine ih hs' ?_ ?_
          · intro job₁ hjob₁
            rcases List.mem_or_eq_of_mem_set hjob₁ with hold | rfl
            · exact hc job₁ hold
            · exact hc'
          · intro u hu job₁ hjob₁
            have hmakes := hm u (List.mem_cons_of_mem _ hu)
            rcases List.mem_or_eq_of_mem_set hjob₁ with hold | rfl
            · exact hmakes job₁ hold
            · exact (hmakes job hmem).of_turn t.moment w.store

/-! ### Documents that can be read -/

/-- The bag that comes with a request. -/
def Request.bag : Request → Bag
  | .publish p => p.submission.bag
  | .edit e => e.submission.bag

/-- A dated record whose bag can be read back however often. -/
structure Restorable (r : Record) : Prop where
  dated : r.IsDated
  readable : r.bag.Readable

theorem durable_restorable : Durable Restorable where
  dated h := h.dated
  reread {r bag} _ h hread := by
    obtain ⟨bag', hread', hreadable⟩ := h.readable.reread
    obtain rfl := Except.ok.inj (hread.symm.trans hread')
    exact ⟨⟨h.dated.published, h.dated.updated, h.dated.released⟩, hreadable⟩

/-- What is made for a request can be read, if the bag that comes with it can. -/
theorem makes_restorable {request : Request} {moment : Moment} (hnow : moment.now.IsReading)
    (hbag : request.bag.Readable) : request.job.Makes Restorable moment := by
  cases request with
  | publish p =>
      exact ⟨fun existing => ⟨Registration.isDated_new hnow, hbag⟩,
        fun l hl => ⟨hl.dated.demoted hnow, hl.readable⟩⟩
  | edit e =>
      intro x hx
      refine ⟨Edit.isDated_edited hx.dated hnow, ?_⟩
      simp only [Edit.edited]
      split
      · exact hx.readable
      · exact hbag

end Service

end ManifestRegistry
