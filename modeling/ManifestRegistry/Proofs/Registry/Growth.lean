/-
**What is stored only grows in number.**

Whatever the visitors of a registry ask for and whatever comes of it, each of them adds one version at
most, behind all others, and none takes away what was there: the imprints stored before a visit begin
those stored after it.  Nothing need be known for this of ceilings, of bags or of the years that moments
fall in, only that no identity is given out twice.

Main definitions:

* `Registry.Visits.Proper` — visits by a clock that offer no identity twice;
* `Registry.Lasting` — **what is known of the records between two visits**;
* `Registry.Midway` — what is known of them in the middle of one.

Main results:

* `Registry.Midway.of_move`, `Registry.Midway.turn` — every call of a visit brings it on;
* `Registry.Lasting.serve`, `Registry.Lasting.serveAll` — **the imprints before visits begin those after**.
-/

import ManifestRegistry.Proofs.Registry.Alone
import ManifestRegistry.Proofs.Service.Moves

set_option relaxedAutoImplicit false
set_option autoImplicit false

namespace ManifestRegistry

open Service Storage

namespace Registry

/-- Visits whose moments a clock can show, that do not offer one identity twice and are not more than a
cursor can count. -/
structure Visits.Proper (vs : List Visit) : Prop where
  readings : ∀ v ∈ vs, ∀ i, (v.clock i).now.IsReading
  fresh : vs.Pairwise fun u v => ∀ i j, (u.clock i).freshId ≠ (v.clock j).freshId
  few : vs.length ≤ Cursor.limit

namespace Visits.Proper

variable {us vs : List Visit}

theorem left (h : Visits.Proper (us ++ vs)) : Visits.Proper us where
  readings v hv := h.readings v (List.mem_append_left _ hv)
  fresh := (List.pairwise_append.1 h.fresh).1
  few := by
    have hall := h.few
    rw [List.length_append] at hall
    omega

/-- Whoever comes later offers no identity that was offered before. -/
theorem new (h : Visits.Proper (us ++ vs)) {v : Visit} (hv : v ∈ vs) (i : Nat) :
    ¬Visits.Offered us (v.clock i).freshId :=
  Visits.not_offered h.fresh hv i

end Visits.Proper

variable {σ : Type} [Store σ] [Ledger σ]

/-- What is known of a store that keeps `rs` after some visits, whatever came of them. -/
structure Lasting (s : σ) (rs : List Record) (past : List Visit) : Prop where
  keeps : Ledger.Keeps s rs
  distinct : Distinct (rs.map Record.imprint)
  dated : ∀ r ∈ rs, r.IsDated
  ids : ∀ m ∈ rs.map Record.imprint, Visits.Offered past m.id
  few : rs.length ≤ past.length

theorem lasting_opening {s : σ} (hk : Ledger.Keeps s []) : Lasting s [] [] where
  keeps := hk
  distinct := .nil
  dated _ h := absurd h List.not_mem_nil
  ids _ h := absurd h List.not_mem_nil
  few := Nat.zero_le _

/-- What is known in the middle of a visit to a store that kept `rs`: no version has been added, and the
job claims an identity of its own or that of a stored version of the name; or one has been, and the job
is done. -/
structure Midway (rs : List Record) (past : List Visit) (v : Visit) (job : Job) (s : σ)
    (rs' : List Record) : Prop where
  keeps : Ledger.Keeps s rs'
  distinct : Distinct (rs'.map Record.imprint)
  dated : ∀ r ∈ rs', r.IsDated
  sound : job.Sound (rs'.map Record.imprint)
  grown : (rs'.map Record.imprint = rs.map Record.imprint ∧
      ∀ id name, job.claim = some (id, name) → (∃ i, (v.clock i).freshId = id) ∨
        ∃ m ∈ rs.map Record.imprint, m.id = id ∧ m.name = name) ∨
    (job.IsDone ∧ ∃ m : Imprint, rs'.map Record.imprint = rs.map Record.imprint ++ [m] ∧
      Visits.Offered (past ++ [v]) m.id)

variable {s : σ} {rs rs' : List Record} {past : List Visit} {v : Visit} {job : Job}

/-- A visit begins with nothing added. -/
theorem Lasting.midway (h : Lasting s rs past) (v : Visit) (request : Request) :
    Midway rs past v request.job s rs where
  keeps := h.keeps
  distinct := h.distinct
  dated := h.dated
  sound := (Job.sound_job request).1
  grown := by
    refine .inl ⟨rfl, ?_⟩
    intro id name hclaim
    rw [(@Job.sound_job [] request).2] at hclaim
    cases hclaim

section

variable (h : Lasting s rs past) {s' : σ}
include h

/-- What is known after a visit, and that it left the imprints in place. -/
theorem Lasting.of_midway (hm : Midway rs past v job s' rs') :
    Lasting s' rs' (past ++ [v]) ∧ rs.map Record.imprint <+: rs'.map Record.imprint := by
  have hlen : (past ++ [v]).length = past.length + 1 := by simp
  have hfew := h.few
  rcases hm.grown with ⟨hsame, -⟩ | ⟨-, m, hadd, hid⟩
  · have hcount := congrArg List.length hsame
    rw [List.length_map, List.length_map] at hcount
    refine ⟨⟨hm.keeps, hm.distinct, hm.dated, ?_, by omega⟩, hsame ▸ List.prefix_rfl⟩
    intro m hmem
    exact (h.ids m (hsame ▸ hmem)).before
  · have hcount := congrArg List.length hadd
    rw [List.length_append, List.length_map, List.length_map, List.length_singleton] at hcount
    refine ⟨⟨hm.keeps, hm.distinct, hm.dated, ?_, by omega⟩, hadd ▸ List.prefix_append _ _⟩
    intro m' hmem
    rw [hadd] at hmem
    rcases List.mem_append.1 hmem with hmem | hmem
    · exact (h.ids m' hmem).before
    · rw [List.mem_singleton.1 hmem]
      exact hid

/-- What a job claims belongs to no other name, if the visit offers no identity that was offered before. -/
theorem Lasting.claim_name (hnew : ∀ i, ¬Visits.Offered past (v.clock i).freshId) {id : Uuid}
    {name : String} (hclaim : (∃ i, (v.clock i).freshId = id) ∨
      ∃ m ∈ rs.map Record.imprint, m.id = id ∧ m.name = name)
    {m : Imprint} (hm : m ∈ rs.map Record.imprint) (hid : m.id = id) : m.name = name := by
  rcases hclaim with ⟨i, hi⟩ | ⟨m', hm', hid', hname⟩
  · have hoffered := h.ids m hm
    rw [hid, ← hi] at hoffered
    exact absurd hoffered (hnew i)
  · exact ((h.distinct.identity m hm m' hm').2 (hid.trans hid'.symm)).trans hname

/-- A move brings a visit on. -/
theorem Midway.of_move (hm : Midway rs past v job s' rs') (i : Nat)
    (hread : (v.clock i).now.IsReading) (hnew : ∀ i, ¬Visits.Offered past (v.clock i).freshId)
    {s'' : σ} {rs'' : List Record} {job' : Job} {legible : Bag → Prop} {guarded : Prop}
    (hk : Ledger.Keeps s'' rs'')
    (hmove : Job.Move legible guarded (v.clock i) rs' job rs'' job') :
    Midway rs past v job' s'' rs'' := by
  rcases hm.grown with ⟨hsame, hclaims⟩ | ⟨hdone, m, hadd, hid⟩
  · refine ⟨hk, ?_, hmove.dated hm.sound hm.dated, hmove.sound hm.sound hm.dated hread, ?_⟩
    · refine hmove.distinct hm.distinct hm.sound ?_
      rw [hsame]
      intro id name hc m hmem hid
      exact h.claim_name hnew (hclaims id name hc) hmem hid
    · rcases hmove.map_imprint hm.distinct hm.sound with he | ⟨record, hc, he, hdone⟩
      · left
        refine ⟨he.trans hsame, ?_⟩
        intro id name hc
        -- a claim that the job did not have before comes with its move
        by_cases hold : job.claim = some (id, name)
        · exact hclaims id name hold
        · rcases hmove.claim hm.sound hc hold with rfl | hstored
          · exact .inl ⟨i, rfl⟩
          · exact .inr (hsame ▸ hstored)
      · right
        refine ⟨hdone, record.imprint, by rw [he, hsame], ?_⟩
        rcases hclaims _ _ hc with ⟨j, hj⟩ | ⟨m, hmem, hid, -⟩
        · exact ⟨v, List.mem_append_right _ List.mem_cons_self, j, hj⟩
        · have hoffered := h.ids m hmem
          rw [hid] at hoffered
          exact hoffered.before
  · cases hmove with
    | rest => exact ⟨hk, hm.distinct, hm.dated, hm.sound, hm.grown⟩
    | _ => exact hdone.elim

/-- **Every call of a visit brings it on.** -/
theorem Midway.turn (hm : Midway rs past v job s' rs') (i : Nat) (hread : (v.clock i).now.IsReading)
    (hnew : ∀ i, ¬Visits.Offered past (v.clock i).freshId) :
    ∃ rs'', Midway rs past v (job.turn (v.clock i) s').1 (job.turn (v.clock i) s').2 rs'' := by
  obtain ⟨rs'', hk, hmove⟩ := job.move hm.keeps hm.distinct hm.dated (v.clock i) hm.sound
  exact ⟨rs'', hm.of_move h i hread hnew hk hmove⟩

end

/-- **The imprints before a visit begin those after it.** -/
theorem Lasting.serve {r : Registry σ} (h : Lasting r.store rs past)
    (hread : ∀ i, (v.clock i).now.IsReading) (hnew : ∀ i, ¬Visits.Offered past (v.clock i).freshId) :
    ∃ rs', Lasting (r.serve v).store rs' (past ++ [v]) ∧
      rs.map Record.imprint <+: rs'.map Record.imprint := by
  have hstep : ∀ (i : Nat) (job : Job) (s : σ), (∃ rs', Midway rs past v job s rs') →
      ∃ rs', Midway rs past v (job.turn (v.clock i) s).1 (job.turn (v.clock i) s).2 rs' := by
    rintro i job s ⟨rs', hm⟩
    exact hm.turn h i (hread i) hnew
  obtain ⟨job, rs', hm⟩ := serve_keeps hstep ⟨rs, h.midway v _⟩
  exact ⟨rs', h.of_midway hm⟩

/-- **The imprints before visits begin those after them.** -/
theorem Lasting.serveAll {r : Registry σ} (h : Lasting r.store rs past) {vs : List Visit}
    (hp : Visits.Proper (past ++ vs)) :
    ∃ rs', Lasting (r.serveAll vs).store rs' (past ++ vs) ∧
      rs.map Record.imprint <+: rs'.map Record.imprint := by
  induction vs generalizing r rs past with
  | nil =>
      rw [List.append_nil]
      exact ⟨rs, h, List.prefix_rfl⟩
  | cons v vs ih =>
      have hv : v ∈ past ++ v :: vs := List.mem_append_right _ List.mem_cons_self
      obtain ⟨rs₁, h₁, hpre⟩ := h.serve (hp.readings v hv) (hp.new List.mem_cons_self)
      have hsplit : past ++ v :: vs = (past ++ [v]) ++ vs := by
        rw [List.append_assoc, List.singleton_append]
      rw [hsplit] at hp ⊢
      obtain ⟨rs', h', hpre'⟩ := ih h₁ hp
      exact ⟨rs', h', hpre.trans hpre'⟩

end Registry

end ManifestRegistry
