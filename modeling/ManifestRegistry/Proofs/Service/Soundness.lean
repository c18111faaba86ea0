/-
**A store and the jobs at work on it.**

Whatever the order of calls, the imprints stored stay distinct, every job holds copies of stored
versions only, and an identity belongs to one name, be it stored or about to be committed.  This much
is so even after an edit has put back an outdated record, and it is all that a single call relies on.

Main definitions:

* `Service.World.Owns` — an identity belongs to a name;
* `Service.World.Sound` — **what is known of a store and the jobs at work on it**;
* `Service.World.Moves` — a call seen from the records.

Main results:

* `Service.World.Sound.turn` — a call keeps a world sound;
* `Service.World.Sound.run`, `Service.World.sound_run` — so does any run, from the opening on.
-/

import ManifestRegistry.Proofs.Service.Moves

set_option relaxedAutoImplicit false
set_option autoImplicit false

namespace ManifestRegistry

namespace Service

open Storage

namespace World

/-- An identity belongs to a name: a version of the name has it, or a job is about to commit one. -/
def Owns (ms : List Imprint) (jobs : List Job) (id : Uuid) (name : String) : Prop :=
  (∃ m ∈ ms, m.id = id ∧ m.name = name) ∨ ∃ job ∈ jobs, job.claim = some (id, name)

variable {σ : Type} [Store σ] [Ledger σ]

/-- What is known of a store that keeps `rs` and of the jobs at work on it, the identities in `used`
having been offered so far. -/
structure Sound (w : World σ) (rs : List Record) (used : List Uuid) : Prop where
  keeps : Ledger.Keeps w.store rs
  distinct : Distinct (rs.map Record.imprint)
  dated : ∀ r ∈ rs, r.IsDated
  jobs : ∀ job ∈ w.jobs, job.Sound (rs.map Record.imprint)
  /-- An identity belongs to one name only. -/
  one : ∀ {id : Uuid} {name name' : String}, Owns (rs.map Record.imprint) w.jobs id name →
    Owns (rs.map Record.imprint) w.jobs id name' → name = name'
  used : ∀ {id : Uuid} {name : String}, Owns (rs.map Record.imprint) w.jobs id name → id ∈ used

/-- What a call does to the records: nothing if nobody makes it, and else the move of a job. -/
inductive Moves (w : World σ) (t : Turn) (rs : List Record) : List Record → World σ → Prop
  | nobody (h : w.jobs[t.job]? = none) : Moves w t rs rs w
  | somebody {job job' : Job} {rs' : List Record} {s : σ} (h : w.jobs[t.job]? = some job)
      (hm : job.Move (Ledger.Legible σ) (Ledger.Guarded σ) t.moment rs rs' job') :
      Moves w t rs rs' ⟨s, w.jobs.set t.job job'⟩

theorem sound_opening {s : σ} (requests : List Request) (hs : Ledger.Keeps s []) :
    (opening s requests).Sound [] [] := by
  have hidle : ∀ job ∈ (opening s requests).jobs, job.Sound [] ∧ job.claim = none := by
    intro job hjob
    obtain ⟨request, -, rfl⟩ := List.mem_map.1 hjob
    exact Job.sound_job request
  have hnone : ∀ {id : Uuid} {name : String}, ¬Owns [] (opening s requests).jobs id name := by
    rintro id name (⟨m, hm, -⟩ | ⟨job, hjob, hclaim⟩)
    · cases hm
    · rw [(hidle job hjob).2] at hclaim
      cases hclaim
  exact ⟨hs, .nil, fun r hr => (List.not_mem_nil hr).elim, fun job hjob => (hidle job hjob).1,
    fun h => (hnone h).elim, fun h => (hnone h).elim⟩

variable {w : World σ} {t : Turn} {ts us : List Turn} {rs : List Record} {used : List Uuid}

namespace Sound

/-- What a job claims belongs to no other name. -/
theorem claim_name (h : w.Sound rs used) {job : Job} (hjob : job ∈ w.jobs) {id : Uuid}
    {name : String} (hc : job.claim = some (id, name)) {m : Imprint}
    (hm : m ∈ rs.map Record.imprint) (hid : m.id = id) : m.name = name :=
  h.one (.inl ⟨m, hm, hid, rfl⟩) (.inr ⟨job, hjob, hc⟩)

/-- After a job's move an identity belongs to the name it belonged to before, unless it is the fresh
one. -/
theorem owns_of_move (h : w.Sound rs used) {i : Nat} {job job' : Job} {rs' : List Record}
    {moment : Moment} (hjob : w.jobs[i]? = some job)
    (hm : job.Move (Ledger.Legible σ) (Ledger.Guarded σ) moment rs rs' job') {id : Uuid}
    {name : String} (ho : Owns (rs'.map Record.imprint) (w.jobs.set i job') id name) :
    Owns (rs.map Record.imprint) w.jobs id name ∨
      (id = moment.freshId ∧ job'.claim = some (id, name)) := by
  have hmem := List.mem_of_getElem? hjob
  have hs := h.jobs job hmem
  rcases ho with ⟨m, hmm, hid, hn⟩ | ⟨job₁, hjob₁, hc⟩
  · rcases hm.map_imprint h.distinct hs with he | ⟨record, hclaim, he, -⟩
    · exact .inl (.inl ⟨m, he ▸ hmm, hid, hn⟩)
    · rw [he] at hmm
      rcases List.mem_append.1 hmm with hmm | hmm
      · exact .inl (.inl ⟨m, hmm, hid, hn⟩)
      · obtain rfl := List.mem_singleton.1 hmm
        subst hid hn
        exact .inl (.inr ⟨job, hmem, hclaim⟩)
  · rcases List.mem_or_eq_of_mem_set hjob₁ with hold | rfl
    · exact .inl (.inr ⟨job₁, hold, hc⟩)
    -- a claim that the job did not have before comes with its move
    · by_cases hclaim : job.claim = some (id, name)
      · exact .inl (.inr ⟨job, hmem, hclaim⟩)
      · rcases hm.claim hs hc hclaim with hid | ⟨m, hmm, hid, hn⟩
        · exact .inr ⟨hid, hc⟩
        · exact .inl (.inl ⟨m, hmm, hid, hn⟩)

/-- **A call keeps a world sound**, if its moment brings an identity that was not offered before. -/
theorem turn (h : w.Sound rs used) (hread : t.moment.now.IsReading)
    (hfresh : t.moment.freshId ∉ used) :
    ∃ rs', w.Moves t rs rs' (w.turn t) ∧ (w.turn t).Sound rs' (t.moment.freshId :: used) := by
  cases hjob : w.jobs[t.job]? with
  | none =>
      rw [turn_of_none hjob]
      exact ⟨rs, .nobody hjob, { h with used := fun ho => List.mem_cons_of_mem _ (h.used ho) }⟩
  | some job =>
      have hmem := List.mem_of_getElem? hjob
      have hs := h.jobs job hmem
      obtain ⟨rs', hk, hm⟩ := job.move h.keeps h.distinct h.dated t.moment hs
      rw [turn_of_some hjob]
      refine ⟨rs', .somebody hjob hm, hk,
        hm.distinct h.distinct hs fun id name hc m hmm => h.claim_name hmem hc hmm,
        hm.dated hs h.dated, ?_, ?_, ?_⟩
      · intro job₁ hjob₁
        rcases List.mem_or_eq_of_mem_set hjob₁ with hold | rfl
        · exact (h.jobs job₁ hold).mono fun m => hm.imprint_mem h.distinct hs
        · exact hm.sound hs h.dated hread
      · -- the fresh identity was not offered before, so only the job itself can have brought it
        intro id name name' ho ho'
        rcases h.owns_of_move hjob hm ho with ho | ⟨rfl, hc⟩ <;>
          rcases h.owns_of_move hjob hm ho' with ho' | ⟨hid, hc'⟩
        · exact h.one ho ho'
        · exact absurd (hid ▸ h.used ho) hfresh
        · exact absurd (h.used ho') hfresh
        · exact (Prod.mk.inj (Option.some_inj.1 (hc.symm.trans hc'))).2
      · intro id name ho
        rcases h.owns_of_move hjob hm ho with ho | ⟨rfl, -⟩
        · exact List.mem_cons_of_mem _ (h.used ho)
        · exact List.mem_cons_self

/-- A run keeps a world sound, if it is fair and offers no identity that was offered before. -/
theorem run (h : w.Sound rs used) (hf : Turns.Fair ts)
    (hnew : ∀ t ∈ ts, t.moment.freshId ∉ used) :
    ∃ rs', (w.run ts).Sound rs' ((ts.map fun t => t.moment.freshId).reverse ++ used) := by
  induction ts generalizing w rs used with
  | nil => exact ⟨rs, h⟩
  | cons t ts ih =>
      obtain ⟨rs₁, -, h₁⟩ := h.turn (hf.readings t List.mem_cons_self) (hnew t List.mem_cons_self)
      obtain ⟨hf', hnew'⟩ := hf.tail hnew
      obtain ⟨rs', h'⟩ := ih h₁ hf' hnew'
      exact ⟨rs', by simpa using h'⟩

end Sound

/-- **A world is sound after any fair run** from its opening. -/
theorem sound_run {s : σ} (requests : List Request) (hs : Ledger.Keeps s [])
    (hf : Turns.Fair ts) : ∃ rs, ((opening s requests).run ts).Sound rs
      ((ts.map fun t => t.moment.freshId).reverse ++ []) :=
  (sound_opening requests hs).run hf fun _ _ => List.not_mem_nil

end World

end Service

end ManifestRegistry
