/-
**What an edit does that nobody disturbs.**

An edit checks its submission and the remote URLs of other names, and then whether the version is there
and has the name.  If so, the edited record takes the place of the stored one, and all others stay.

Main definitions:

* `Service.Edit.target?` — the version that is edited;
* `Service.Edit.verdict` — **the edited record, or why there is none**;
* `Service.Edit.stored` — the records with it.

Main results:

* `Service.Edit.updated_stored` — the update of a version changes the one record that is it;
* `Service.Edit.settled_stored` — an edit leaves settled records;
* `Service.Edit.ends` — **an undisturbed edit comes to its verdict**.
-/

import ManifestRegistry.Proofs.Service.Edit
import ManifestRegistry.Proofs.Service.Undisturbed

set_option relaxedAutoImplicit false
set_option autoImplicit false

namespace ManifestRegistry

namespace Service

open Storage

namespace Edit

section

variable (e : Edit) (moment : Moment) (rs : List Record)

/-- The version that is edited, if it is there. -/
def target? : Option Record := rs.find? fun r => r.isVersion e.id e.manifest.version

/-- Why other names refuse the remote URLs, if they do. -/
def urlFlaw? : Option Failure := Ownership.flaw? e.manifest.name rs e.manifest.remoteUrls

/-- The edited record, or the first reason why there is none. -/
def verdict : Except Failure Record :=
  match e.submission.flaw? e.config e.validator <|> e.urlFlaw? rs with
  | some f => .error f
  | none => e.apply moment.now (e.target? rs)

/-- The records with the edited one in the place of the version. -/
def stored (u : Record) : List Record :=
  rs.map fun r => if r.isVersion e.id e.manifest.version then u else r

/-- What an edit comes to, and the records afterwards. -/
def ending : Except Failure Record → Change × List Record
  | .error f => (failed f, rs)
  | .ok u => (.ok (u, e.events u), e.stored rs u)

end

variable {e : Edit} {moment : Moment} {rs : List Record} {u : Record}

/-- An edited record is the version with the manifest and the bag put in place. -/
theorem apply_eq_ok {now : Instant} (h : e.apply now (e.target? rs) = .ok u) :
    ∃ r ∈ rs, r.isVersion e.id e.manifest.version = true ∧ r.name = e.manifest.name ∧
      u = e.edited now r := by
  unfold Edit.apply at h
  split at h
  · cases h
  · rename_i r hr
    split at h
    · rename_i hn
      obtain rfl := Except.ok.inj h
      have hfind : (rs.find? fun r => r.isVersion e.id e.manifest.version) = some r := hr
      exact ⟨r, List.mem_of_find?_eq_some hfind, by simpa using List.find?_some hfind, hn, rfl⟩
    · cases h

theorem apply_of_verdict (h : e.verdict moment rs = .ok u) :
    e.apply moment.now (e.target? rs) = .ok u := by
  unfold verdict at h
  split at h
  · cases h
  · exact h

/-- **The update of a version changes the one record that is it.** -/
theorem updated_stored (h : Orderly rs) {r : Record} (hr : r ∈ rs)
    (hv : r.isVersion e.id e.manifest.version = true) (hu : u.version = e.manifest.version) :
    ∃ i, Memory.place? rs e.id u.version = some i ∧ rs[i]? = some r ∧
      rs.set i u = e.stored rs u := by
  obtain ⟨i, hplace, hi⟩ := h.distinct.exists_place hr hv
  refine ⟨i, hu ▸ hplace, hi, ?_⟩
  refine set_eq_map (fun s => s.isVersion e.id e.manifest.version = true) (fun _ => u) hi hv ?_
  -- no other record is the version
  intro k s hk hs
  exact h.distinct.eq_place hplace hk hs

theorem map_imprint_stored (h : Orderly rs) {now : Instant}
    (hu : e.apply now (e.target? rs) = .ok u) :
    (e.stored rs u).map Record.imprint = rs.map Record.imprint := by
  obtain ⟨r, hr, hv, hn, rfl⟩ := apply_eq_ok hu
  obtain ⟨i, -, hi, hset⟩ := updated_stored (u := e.edited now r) h hr hv rfl
  rw [← hset]
  refine map_imprint_set ?_
  intro s hs
  obtain rfl : r = s := Option.some_inj.1 (hi.symm.trans hs)
  exact (imprint_edited _ hn (Record.isVersion_iff.1 hv).2).symm

/-- **An edit leaves settled records.** -/
theorem settled_stored {legible : Bag → Prop} (hs : Settled legible rs)
    (hu : e.apply moment.now (e.target? rs) = .ok u) (hnow : moment.now.IsReading)
    (hera : moment.now.InEra) (hbag : legible e.submission.bag) :
    Settled legible (e.stored rs u) := by
  obtain ⟨r, hr, hv, hn, rfl⟩ := apply_eq_ok hu
  obtain ⟨i, -, hi, hset⟩ := updated_stored (u := e.edited moment.now r) hs.orderly hr hv rfl
  have himp := (imprint_edited moment.now hn (Record.isVersion_iff.1 hv).2).symm
  have hmem : ∀ s ∈ rs.set i (e.edited moment.now r), s ∈ rs ∨ s = e.edited moment.now r :=
    fun s hs => List.mem_or_eq_of_mem_set hs
  rw [← hset]
  refine ⟨hs.orderly.updated hi himp rfl, fun s hmem' => ?_, fun s hmem' => ?_, fun s hmem' => ?_⟩
  · rcases hmem s hmem' with hold | rfl
    · exact hs.dated s hold
    · exact isDated_edited (hs.dated r hr) hnow
  · rcases hmem s hmem' with hold | rfl
    · exact hs.inEra s hold
    · exact ⟨(hs.inEra r hr).published, hera⟩
  · rcases hmem s hmem' with hold | rfl
    · exact hs.legible s hold
    · show legible (if e.submission.bag.isEmpty then r.bag else e.submission.bag)
      split
      · exact hs.legible r hr
      · exact hbag

/-! ### The task -/

section

variable {legible : Bag → Prop} {clock : Nat → Moment} {made : Nat}

/-- The task comes to a verdict at the moment of a call, after at most so many calls. -/
def Comes (legible : Bag → Prop) (clock : Nat → Moment) (made : Nat) (e : Edit) (rs : List Record)
    (most : Nat) (progress : Progress Phase Change) (verdict : Moment → Except Failure Record) :
    Prop :=
  ∃ n i, n ≤ most ∧ i < made + most ∧ e.machine.Ends legible clock made progress rs n
    (e.ending rs (verdict (clock i))).1 (e.ending rs (verdict (clock i))).2

theorem comes_failed (f : Failure) {most : Nat} (hmost : 0 < most) :
    e.Comes legible clock made rs most (.finished (failed f)) (fun _ => .error f) :=
  ⟨0, made, Nat.zero_le _, Nat.lt_add_of_pos_right hmost, .finished _ _ _⟩

theorem ends_save (hs : Settled legible rs) {now : Instant}
    (h : e.apply now (e.target? rs) = .ok u) :
    e.machine.Ends legible clock made (.running (.save u)) rs 1 (e.ending rs (.ok u)).1
      (e.ending rs (.ok u)).2 := by
  obtain ⟨r, hr, hv, hn, rfl⟩ := apply_eq_ok h
  obtain ⟨hid, hver⟩ := Record.isVersion_iff.1 hv
  obtain ⟨i, hi, -, hset⟩ := updated_stored (u := e.edited now r) hs.orderly hr hv rfl
  have hplain : Plain (clock made).now rs (.update e.id (e.edited now r)) :=
    ⟨hid, r, hr, (imprint_edited _ hn hver).symm, rfl⟩
  have hcall : Store.call (.update e.id (e.edited now r)) (clock made).now (Memory.mk rs false) =
      (.ok (e.edited now r), Memory.mk (e.stored rs (e.edited now r)) false) := by
    simp only [Store.call, Memory.update, Bool.false_eq_true, if_false, hi, hset]
  have hans : Answers legible (clock made).now rs (.update e.id (e.edited now r))
      (e.edited now r) (e.stored rs (e.edited now r)) := ⟨hs, hplain, hcall⟩
  exact .call (m := e.machine) (s := .save (e.edited now r)) hans (.finished _ _ _)

theorem comes_fetch (hs : Settled legible rs) :
    e.Comes legible clock made rs 2 (.running .fetch)
      (fun moment => e.apply moment.now (e.target? rs)) := by
  have hans : Answers legible (clock made).now rs (.getVersion e.id e.manifest.version)
      (e.target? rs) rs := ⟨hs, trivial, rfl⟩
  obtain ⟨n, hn, hnext⟩ : ∃ n, n ≤ 1 ∧ e.machine.Ends legible clock (made + 1)
      (e.afterFetch (clock made).now (.ok (e.target? rs))) rs n
      (e.ending rs (e.apply (clock made).now (e.target? rs))).1
      (e.ending rs (e.apply (clock made).now (e.target? rs))).2 := by
    rw [afterFetch]
    cases hu : e.apply (clock made).now (e.target? rs) with
    | error f => exact ⟨0, Nat.zero_le _, .finished _ _ _⟩
    | ok u => exact ⟨1, Nat.le_refl _, ends_save hs hu⟩
  exact ⟨n + 1, made, by omega, by omega, .call (m := e.machine) (s := .fetch) hans hnext⟩

theorem rounds_mono (e : Edit) {size size' : Nat} (h : size ≤ size') :
    e.rounds size ≤ e.rounds size' :=
  Nat.add_le_add_right (Nat.mul_le_mul_left _ (Nat.add_le_add_right h 1)) 2

/-- **An undisturbed edit comes to its verdict**, after no more calls than it may make. -/
theorem ends (clock : Nat → Moment) (made : Nat) (hs : Settled legible rs)
    (hfits : rs.length ≤ Cursor.limit) :
    e.Comes legible clock made rs (e.rounds rs.length) e.start
      (fun moment => e.verdict moment rs) := by
  simp only [start, verdict]
  cases hflaw : e.submission.flaw? e.config e.validator with
  | some f => exact comes_failed f (Nat.succ_pos _)
  | none =>
      obtain ⟨n, hn, hcheck⟩ := Ownership.ends clock made hs hfits e.manifest.name
        e.manifest.remoteUrls
      obtain ⟨k, i, hk, hi, hnext⟩ : e.Comes legible clock (made + n) rs 2
          (afterOwnership (Ownership.outcome (e.urlFlaw? rs))) (fun moment =>
            match e.urlFlaw? rs with
            | some f => .error f
            | none => e.apply moment.now (e.target? rs)) := by
        cases e.urlFlaw? rs with
        | some f => exact comes_failed f (Nat.succ_pos _)
        | none => exact comes_fetch hs
      have hends := Machine.Ends.andThen (M := e.machine) (f := Phase.ownership)
        (fun hans => ⟨_, hans, rfl⟩) hcheck (clock made) hnext
      have hrounds : n + 2 ≤ e.rounds rs.length := Nat.add_le_add_right hn 2
      exact ⟨n + k, i, by omega, by omega, hends⟩

end

end Edit

end Service

end ManifestRegistry
