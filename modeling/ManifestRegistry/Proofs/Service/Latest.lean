/-
**Who may raise the latest flag.**

A commit raises the flag of the version it adds only, and only when no other version of the name has
it.  The one way to put a flag back is an edit that read its version before a publish demoted it and
saves its copy afterwards.  As long as no such save goes through, records stay orderly; a guarded store
never lets one through.

Main definitions:

* `Service.Job.Revives`, `Service.World.Revives` — a save that would put a flag back;
* `Service.Job.Heeds` — an edit that will not take a flag away by mistake;
* `Service.World.Steady` — orderly records and jobs that heed them.

Main results:

* `Service.Job.Move.orderly` — a move that puts no flag back keeps records orderly;
* `Service.World.Steady.run` — **so does a run in which no turn does**.
-/

import ManifestRegistry.Proofs.Service.Soundness

set_option relaxedAutoImplicit false
set_option autoImplicit false

namespace ManifestRegistry

namespace Service

open Storage

namespace Job

/-- An edit is about to save a flagged copy of a version that has lost the flag since. -/
def Revives (rs : List Record) : Job → Prop
  | .edit e (.running (.save u)) => u.isLatest = true ∧
      ∃ r ∈ rs, r.isVersion e.id u.version = true ∧ r.isLatest = false
  | _ => False

/-- If an edit is about to save a copy without the flag, its version does not have the flag. -/
def Heeds (rs : List Record) : Job → Prop
  | .edit _ (.running (.save u)) => u.isLatest = false →
      ∀ r ∈ rs, r.imprint = u.imprint → r.isLatest = false
  | _ => True

theorem heeds_of_opened {e : Edit} {progress : Progress Edit.Phase Change}
    (h : Edit.Opened progress) (rs : List Record) : (edit e progress).Heeds rs := by
  cases h <;> trivial

theorem heeds_job (request : Request) (rs : List Record) : request.job.Heeds rs := by
  cases request with
  | publish p => trivial
  | edit e => exact heeds_of_opened Edit.opened_start rs

namespace Move

variable {legible : Bag → Prop} {guarded : Prop} {moment : Moment} {rs rs' : List Record}
  {job job' : Job}

/-- A save that puts no flag back leaves the flag as it is. -/
theorem isLatest_eq {e : Edit} {u : Record} {i : Nat} {r : Record} (ho : Orderly rs)
    (hs : (edit e (.running (.save u))).Sound (rs.map Record.imprint))
    (hh : (edit e (.running (.save u))).Heeds rs)
    (hi : Memory.place? rs e.id u.version = some i) (hr : rs[i]? = some r)
    (hg : guarded → u.isLatest = true → ∀ j s, rs[j]? = some s → s.name = u.name →
      s.isLatest = true → j = i)
    (hno : guarded ∨ ¬(edit e (.running (.save u))).Revives rs) : r.isLatest = u.isLatest := by
  obtain ⟨hid, hm, -⟩ := hs
  have himp : r.imprint = u.imprint := ho.distinct.imprint_eq (hid ▸ hi) hr hm
  have hmem := List.mem_of_getElem? hr
  cases hu : u.isLatest with
  | false => exact hh hu r hmem himp
  | true =>
      cases hrl : r.isLatest with
      | true => rfl
      | false =>
          rcases hno with hguard | hno
          · -- some record of the name is flagged; the guard says that it is this one
            obtain ⟨l, hl, hln, hlf, -⟩ := ho.led r.imprint (List.mem_map_of_mem hmem)
            obtain ⟨j, hj⟩ := List.mem_iff_getElem?.1 hl
            obtain rfl := hg hguard hu j l hj (hln.trans (congrArg Imprint.name himp)) hlf
            obtain rfl : l = r := Option.some_inj.1 (hj.symm.trans hr)
            simp [hrl] at hlf
          · obtain ⟨s, hsi, hv⟩ := Memory.place?_eq_some hi
            obtain rfl : s = r := Option.some_inj.1 (hsi.symm.trans hr)
            exact absurd ⟨hu, s, hmem, hv, hrl⟩ hno

/-- **A move that puts no flag back keeps records orderly.** -/
theorem orderly (h : Move legible guarded moment rs job rs' job') (ho : Orderly rs)
    (hs : job.Sound (rs.map Record.imprint)) (hh : job.Heeds rs)
    (hown : ∀ id name, job.claim = some (id, name) →
      ∀ m ∈ rs.map Record.imprint, m.id = id → m.name = name)
    (hno : guarded ∨ ¬job.Revives rs) : Orderly rs' := by
  cases h with
  | commit p left plan hc => exact ho.committed hs.1 (hown _ _ rfl) hc
  | save e u i hi hg =>
      obtain ⟨r, hr, -⟩ := Memory.place?_eq_some hi
      have himp : r.imprint = u.imprint := ho.distinct.imprint_eq (hs.1 ▸ hi) hr hs.2.1
      exact ho.updated hr himp (isLatest_eq ho hs hh hi hr hg hno)
  | _ => exact ho

theorem isLatest_of_mem (h : Move legible guarded moment rs job rs' job') (ho : Orderly rs)
    (hs : job.Sound (rs.map Record.imprint)) (hh : job.Heeds rs)
    (hno : guarded ∨ ¬job.Revives rs) {r' : Record} (hr' : r' ∈ rs') (hf : r'.isLatest = true)
    (hm : r'.imprint ∈ rs.map Record.imprint) :
    ∃ r ∈ rs, r.imprint = r'.imprint ∧ r.isLatest = true := by
  cases h with
  | commit p left plan hc =>
      obtain ⟨-, rs₁, hd, hins⟩ := Memory.committed_eq_ok.1 hc
      obtain ⟨hnew, -, rfl⟩ := Memory.insert_eq_ok.1 hins
      rcases List.mem_append.1 hr' with hr' | hr'
      · obtain ⟨i, hi⟩ := List.mem_iff_getElem?.1 hr'
        have hold := Orderly.isLatest_of_demoted hd (fun d he => (hs.1.demotion d he).2.1) hi hf
        exact ⟨r', List.mem_of_getElem? hold, rfl, hf⟩
      · obtain rfl := List.mem_singleton.1 hr'
        rw [← ho.distinct.map_imprint_demoted (fun d he => (hs.1.demotion d he).1) hd] at hm
        obtain ⟨r, hr, he⟩ := List.mem_map.1 hm
        exact absurd (congrArg Imprint.version he) (hnew r hr (congrArg Imprint.name he))
  | save e u i hi hg =>
      rcases List.mem_or_eq_of_mem_set hr' with hold | rfl
      · exact ⟨r', hold, rfl, hf⟩
      · obtain ⟨r, hr, -⟩ := Memory.place?_eq_some hi
        have himp : r.imprint = r'.imprint := ho.distinct.imprint_eq (hs.1 ▸ hi) hr hs.2.1
        exact ⟨r, List.mem_of_getElem? hr, himp, (isLatest_eq ho hs hh hi hr hg hno).trans hf⟩
  | _ => exact ⟨r', hr', rfl, hf⟩

/-- A job that heeds the records heeds them after another job's move that puts no flag back. -/
theorem heeds_of_heeds (h : Move legible guarded moment rs job rs' job') (ho : Orderly rs)
    (hs : job.Sound (rs.map Record.imprint)) (hh : job.Heeds rs)
    (hno : guarded ∨ ¬job.Revives rs) {other : Job} (hos : other.Sound (rs.map Record.imprint))
    (hoh : other.Heeds rs) : other.Heeds rs' := by
  cases other with
  | publish p progress => trivial
  | edit e progress =>
      cases progress with
      | finished r => trivial
      | running phase =>
          cases phase with
          | save u =>
              intro hu r' hr' he
              -- no move flags a version again that was read without the flag
              cases hf : r'.isLatest with
              | false => rfl
              | true =>
                  obtain ⟨r, hr, her, hrf⟩ :=
                    h.isLatest_of_mem ho hs hh hno hr' hf (he ▸ hos.2.1)
                  rw [hoh hu r hr (her.trans he)] at hrf
                  cases hrf
          | _ => trivial

theorem heeds (h : Move legible guarded moment rs job rs' job')
    (hd : Distinct (rs.map Record.imprint)) (hh : job.Heeds rs) : job'.Heeds rs' := by
  cases h with
  | rest => exact hh
  | fetch e x r hr hx hid hv hn =>
      intro hu s hsm he
      rw [Edit.imprint_edited _ hn hv, hx.imprint] at he
      -- the version that was read is the only one with its imprint
      obtain rfl : s = r := hd.eq_of_imprint hsm hr he
      rw [← hx.isLatest]
      exact hu
  | reopen e phase h => exact heeds_of_opened h _
  | _ => trivial

end Move

end Job

namespace World

/-- A turn would put a flag back. -/
def Revives {σ : Type} (w : World σ) (t : Turn) (rs : List Record) : Prop :=
  ∃ job, w.jobs[t.job]? = some job ∧ job.Revives rs

/-- Orderly records and jobs that heed them. -/
structure Steady {σ : Type} (w : World σ) (rs : List Record) : Prop where
  orderly : Orderly rs
  heeds : ∀ job ∈ w.jobs, job.Heeds rs

theorem steady_opening {σ : Type} (s : σ) (requests : List Request) :
    (opening s requests).Steady [] where
  orderly := .nil
  heeds job hjob := by
    obtain ⟨request, -, rfl⟩ := List.mem_map.1 hjob
    exact Job.heeds_job request []

variable {σ : Type} [Store σ] [Ledger σ] {w w' : World σ} {t : Turn} {ts : List Turn}
  {rs rs' : List Record} {used : List Uuid}

/-- A call that puts no flag back keeps a world steady. -/
theorem Steady.of_moves (h : w.Steady rs) (hs : w.Sound rs used) (hm : w.Moves t rs rs' w')
    (hno : Ledger.Guarded σ ∨ ¬w.Revives t rs) : w'.Steady rs' := by
  cases hm with
  | nobody => exact h
  | @somebody job job' _ s hjob hm =>
      have hmem := List.mem_of_getElem? hjob
      have hno' : Ledger.Guarded σ ∨ ¬job.Revives rs :=
        hno.imp_right fun hno hrev => hno ⟨job, hjob, hrev⟩
      refine ⟨hm.orderly h.orderly (hs.jobs job hmem) (h.heeds job hmem)
        (fun id name hc m hmm => hs.claim_name hmem hc hmm) hno', fun other hother => ?_⟩
      rcases List.mem_or_eq_of_mem_set hother with hold | rfl
      · exact hm.heeds_of_heeds h.orderly (hs.jobs job hmem) (h.heeds job hmem) hno'
          (hs.jobs other hold) (h.heeds other hold)
      · exact hm.heeds h.orderly.distinct (h.heeds job hmem)

/-- **A run in which no turn puts a flag back keeps a world steady.** -/
theorem Steady.run (h : w.Steady rs) (hs : w.Sound rs used) (hf : Turns.Fair ts)
    (hnew : ∀ t ∈ ts, t.moment.freshId ∉ used)
    (hno : ∀ us t, us ++ [t] <+: ts → Ledger.Guarded σ ∨
      ∀ rs, Ledger.Keeps (w.run us).store rs → ¬(w.run us).Revives t rs) :
    ∃ rs', (w.run ts).Steady rs' ∧
      (w.run ts).Sound rs' ((ts.map fun t => t.moment.freshId).reverse ++ used) := by
  -- steadiness is carried through turn by turn, and soundness with it
  induction ts generalizing w rs used with
  | nil => exact ⟨rs, h, hs⟩
  | cons t ts ih =>
      obtain ⟨rs₁, hm, hs₁⟩ :=
        hs.turn (hf.readings t List.mem_cons_self) (hnew t List.mem_cons_self)
      have hcalm : Ledger.Guarded σ ∨ ¬w.Revives t rs :=
        (hno [] t (by simp)).imp_right fun hno => hno rs hs.keeps
      have h₁ := h.of_moves hs hm hcalm
      obtain ⟨hf', hnew'⟩ := hf.tail hnew
      obtain ⟨rs', h', hs'⟩ := ih h₁ hs₁ hf' hnew' fun us u hu =>
        hno (t :: us) u (by simpa using hu)
      exact ⟨rs', h', by simpa using hs'⟩

end World

end Service

end ManifestRegistry
