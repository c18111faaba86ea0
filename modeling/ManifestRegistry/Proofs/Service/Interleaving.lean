/-
**Tasks that interleave.**

Any number of publishes and edits may be under way on one store.  Each call to the store is one
step; in what order the tasks make their calls is up to nobody, so a run is any list of turns, each
saying which task makes its next call and at which moment.  A task that is called in later is one
whose turns come later: it begins without asking the store anything.

Main definitions:

* `Service.Job` — a publish or an edit under way; `Service.Job.IsDone` — one that has a result;
* `Service.Job.result` — what a job has come to;
* `Service.Job.turn` — **one call of a job**;
* `Service.World`, `Service.World.turn`, `Service.World.run` — a store and the jobs at work on it, of
  which a turn brings on one;
* `Service.Turns.Fair` — turns whose moments are a clock's and bring no identity twice;
* `Service.Race` — two publishes and an edit of one server that can get in each other's way.
-/

import ManifestRegistry.Proofs.Instant.Reading
import ManifestRegistry.Service.Edit
import ManifestRegistry.Service.Publish
import ManifestRegistry.Storage.Pace

set_option relaxedAutoImplicit false
set_option autoImplicit false

namespace ManifestRegistry

namespace Service

open Storage

/-- What someone asks the registry to change. -/
inductive Request where
  | publish (p : Publish)
  | edit (e : Edit)

/-- A publish or an edit under way. -/
inductive Job where
  | publish (p : Publish) (progress : Progress Publish.Phase Change)
  | edit (e : Edit) (progress : Progress Edit.Phase Change)

/-- A job before its first call. -/
def Request.job : Request → Job
  | .publish p => .publish p p.start
  | .edit e => .edit e e.start

/-- The manifest that a job is about. -/
def Job.manifest : Job → Manifest
  | .publish p _ => p.manifest
  | .edit e _ => e.manifest

/-- A job that has a result. -/
def Job.IsDone : Job → Prop
  | .publish _ (.finished _) | .edit _ (.finished _) => True
  | _ => False

/-- The result of a task that is done. -/
def Progress.result? {τ ρ : Type} : Progress τ ρ → Option ρ
  | .running _ => none
  | .finished r => some r

/-- What a job has come to; one that is left before it is done has crashed. -/
def Job.result : Job → Change
  | .publish _ progress => progress.result?.getD (.error .crashed)
  | .edit _ progress => progress.result?.getD (.error .crashed)

variable {σ : Type} [Store σ]

/-- One call of a job under its deadline; a job that is done makes none. -/
def Job.turn (moment : Moment) (s : σ) : Job → Job × σ
  | .publish p (.running phase) =>
      let (progress, s) :=
        p.machine.step (within p.config.timeoutMs · moment.now) moment phase s
      (.publish p progress, s)
  | .edit e (.running phase) =>
      let (progress, s) :=
        e.machine.step (within e.config.timeoutMs · moment.now) moment phase s
      (.edit e progress, s)
  | job => (job, s)

theorem Job.turn_of_isDone {job : Job} (h : job.IsDone) (moment : Moment) (s : σ) :
    job.turn moment s = (job, s) := by
  cases job with
  | publish p progress =>
      cases progress with
      | running phase => exact h.elim
      | finished r => rfl
  | edit e progress =>
      cases progress with
      | running phase => exact h.elim
      | finished r => rfl

@[simp] theorem Job.manifest_turn (job : Job) (moment : Moment) (s : σ) :
    (job.turn moment s).1.manifest = job.manifest := by
  cases job with
  | publish p progress => cases progress <;> rfl
  | edit e progress => cases progress <;> rfl

/-- A store and the jobs at work on it. -/
structure World (σ : Type) where
  store : σ
  jobs : List Job

/-- Which job makes its next call, and at which moment. -/
structure Turn where
  job : Nat
  moment : Moment

namespace World

/-- A store with jobs that have not begun. -/
def opening (s : σ) (requests : List Request) : World σ := ⟨s, requests.map Request.job⟩

/-- One call of one job. -/
def turn (w : World σ) (t : Turn) : World σ :=
  match w.jobs[t.job]? with
  | none => w
  | some job =>
      let (job, store) := job.turn t.moment w.store
      ⟨store, w.jobs.set t.job job⟩

/-- Calls one after the other. -/
def run (w : World σ) (ts : List Turn) : World σ := ts.foldl turn w

@[simp] theorem run_nil (w : World σ) : w.run [] = w := rfl

@[simp] theorem run_cons (w : World σ) (t : Turn) (ts : List Turn) :
    w.run (t :: ts) = (w.turn t).run ts := rfl

theorem run_append (w : World σ) (ts us : List Turn) : w.run (ts ++ us) = (w.run ts).run us :=
  List.foldl_append

theorem run_append_singleton (w : World σ) (ts : List Turn) (t : Turn) :
    w.run (ts ++ [t]) = (w.run ts).turn t := by
  rw [run_append, run_cons, run_nil]

theorem turn_of_none {w : World σ} {t : Turn} (h : w.jobs[t.job]? = none) : w.turn t = w := by
  simp only [World.turn, h]

theorem turn_of_some {w : World σ} {t : Turn} {job : Job} (h : w.jobs[t.job]? = some job) :
    w.turn t = ⟨(job.turn t.moment w.store).2, w.jobs.set t.job (job.turn t.moment w.store).1⟩ := by
  simp only [World.turn, h]

theorem jobs_turn_self {w : World σ} {t : Turn} {job : Job} (h : w.jobs[t.job]? = some job) :
    (w.turn t).jobs[t.job]? = some (job.turn t.moment w.store).1 := by
  rw [turn_of_some h]
  exact List.getElem?_set_self (List.getElem?_eq_some_iff.1 h).1

theorem jobs_turn_of_ne (w : World σ) {t : Turn} {j : Nat} (hne : t.job ≠ j) :
    (w.turn t).jobs[j]? = w.jobs[j]? := by
  cases hjob : w.jobs[t.job]? with
  | none => rw [turn_of_none hjob]
  | some job =>
      rw [turn_of_some hjob]
      exact List.getElem?_set_ne hne

theorem jobs_run_of_isDone {w : World σ} {j : Nat} {job : Job} (h : w.jobs[j]? = some job)
    (hdone : job.IsDone) (ts : List Turn) : (w.run ts).jobs[j]? = some job := by
  induction ts generalizing w with
  | nil => exact h
  | cons t ts ih =>
      refine ih ?_
      by_cases ht : t.job = j
      · subst ht
        rw [jobs_turn_self h, Job.turn_of_isDone hdone]
      · rw [jobs_turn_of_ne w ht, h]

theorem jobs_run_of_none {w : World σ} {j : Nat} (h : w.jobs[j]? = none) (ts : List Turn) :
    (w.run ts).jobs[j]? = none := by
  induction ts generalizing w with
  | nil => exact h
  | cons t ts ih =>
      refine ih ?_
      by_cases ht : t.job = j
      · subst ht
        rw [turn_of_none h, h]
      · rw [jobs_turn_of_ne w ht, h]

end World

/-- Turns whose moments are such that a clock can show them, and that are offered no identity
twice. -/
structure Turns.Fair (ts : List Turn) : Prop where
  readings : ∀ t ∈ ts, t.moment.now.IsReading
  fresh : (ts.map fun t => t.moment.freshId).Nodup

theorem Turns.Fair.left {ts us : List Turn} (h : Turns.Fair (ts ++ us)) : Turns.Fair ts where
  readings t ht := h.readings t (List.mem_append_left _ ht)
  fresh := by
    have hf := h.fresh
    rw [List.map_append] at hf
    exact (List.nodup_append.1 hf).1

theorem Turns.Fair.of_isPrefix {ts us : List Turn} (h : Turns.Fair ts) (hpre : us <+: ts) :
    Turns.Fair us := by
  obtain ⟨vs, rfl⟩ := hpre
  exact h.left

/-- The turns after some others are fair and offer no identity that those did. -/
theorem Turns.Fair.right {ts us : List Turn} (h : Turns.Fair (ts ++ us)) :
    Turns.Fair us ∧ ∀ u ∈ us, u.moment.freshId ∉ ts.map fun t => t.moment.freshId := by
  have hf := h.fresh
  rw [List.map_append] at hf
  obtain ⟨-, hnodup, hne⟩ := List.nodup_append.1 hf
  refine ⟨⟨fun u hu => h.readings u (List.mem_append_right _ hu), hnodup⟩, fun u hu hmem => ?_⟩
  exact hne _ hmem _ (List.mem_map_of_mem hu) rfl

/-- The last turn can be taken behind the others. -/
theorem Turns.Fair.last {ts : List Turn} {t : Turn} (h : Turns.Fair (ts ++ [t])) :
    t.moment.now.IsReading ∧ t.moment.freshId ∉ (ts.map fun t => t.moment.freshId).reverse := by
  obtain ⟨hlast, hfresh⟩ := h.right
  rw [List.mem_reverse]
  exact ⟨hlast.readings t List.mem_cons_self, hfresh t List.mem_cons_self⟩

/-- The turns after the first are fair, and offer no identity that was offered before or by the
first. -/
theorem Turns.Fair.tail {t : Turn} {ts : List Turn} (h : Turns.Fair (t :: ts)) {used : List Uuid}
    (hnew : ∀ u ∈ t :: ts, u.moment.freshId ∉ used) :
    Turns.Fair ts ∧ ∀ u ∈ ts, u.moment.freshId ∉ t.moment.freshId :: used := by
  have hnodup := List.nodup_cons.1 (List.map_cons ▸ h.fresh)
  refine ⟨⟨fun u hu => h.readings u (List.mem_cons_of_mem _ hu), hnodup.2⟩, fun u hu hused => ?_⟩
  rcases List.mem_cons.1 hused with he | hused
  · exact hnodup.1 (he ▸ List.mem_map_of_mem hu)
  · exact hnew u (List.mem_cons_of_mem _ hu) hused

/-! ### A race in small -/

namespace Race

/-- A version of a server. -/
def manifest (version description : String) : Manifest where
  name := "a/b"
  description := description
  version := version
  repository := some { url := "u", source := "git" }

/-- A publish of a version. -/
def publish (version : String) : Publish where
  config := { dailyQuota := -1 }
  validator _ := none
  submission := { manifest := manifest version "" }
  publisher := { subject := "s" }

/-- An edit of the version `1.0.0`. -/
def edit : Edit where
  config := {}
  validator _ := none
  id := ⟨0⟩
  submission := { manifest := manifest "1.0.0" "edited" }
  editor := { subject := "s" }

/-- Turns of the jobs with these numbers, all at one time; each is offered its number in the row as an
identity. -/
def turns (jobs : List Nat) : List Turn :=
  jobs.zipIdx.map fun (job, n) => ⟨job, ⟨.epoch, ⟨n⟩⟩⟩

end Race

end Service

end ManifestRegistry
