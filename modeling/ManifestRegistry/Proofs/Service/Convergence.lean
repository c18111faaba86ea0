/-
**Publishes converge; edits may spoil it.**

However the calls of any number of publishes interleave, the records of every name are well kept after
each of them, in a list and in a table alike.  With edits among them a table still keeps exactly one
flagged record for each name, whereas a list does so exactly until an edit puts back a flag that a
publish has taken away since the edit read its version.

Main definitions:

* `SingleLatest` — exactly one flagged record for each name.

Main results:

* `Service.World.publishes_converge` — **any publishes leave well kept records**;
* `Service.World.single_latest_iff` — **when publishes and edits leave one flagged record per name**.
-/

import ManifestRegistry.Proofs.Service.Latest
import ManifestRegistry.Proofs.Storage.Rows

set_option relaxedAutoImplicit false
set_option autoImplicit false

namespace ManifestRegistry

open Storage

/-- Exactly one record of each name that has any is flagged. -/
def SingleLatest (rs : List Record) : Prop :=
  ∀ r ∈ rs, ∃ l, (rs.filter fun s => s.name = r.name && s.isLatest) = [l]

theorem singleLatest_iff_length {rs : List Record} : SingleLatest rs ↔
    ∀ r ∈ rs, (rs.filter fun s => s.name = r.name && s.isLatest).length = 1 := by
  simp only [SingleLatest, List.length_eq_one_iff]

theorem Orderly.singleLatest {rs : List Record} (h : Orderly rs) : SingleLatest rs := by
  intro r hr
  obtain ⟨l, hl, -⟩ := (h.wellKept hr).latest
  exact ⟨l, hl⟩

/-- A test that holds in two places of a list does not leave one of them only. -/
theorem filter_ne_singleton {α : Type} {test : α → Bool} {as : List α} {i j : Nat} {a b c : α}
    (hij : i < j) (hi : as[i]? = some a) (hj : as[j]? = some b) (ha : test a = true)
    (hb : test b = true) : as.filter test ≠ [c] := by
  intro h
  have hsplit : as.filter test = (as.take j).filter test ++ (as.drop j).filter test := by
    rw [← List.filter_append, List.take_append_drop]
  have hfirst : a ∈ (as.take j).filter test := by
    refine List.mem_filter.2 ⟨List.mem_iff_getElem?.2 ⟨i, ?_⟩, ha⟩
    rw [List.getElem?_take_of_lt hij, hi]
  have hsecond : b ∈ (as.drop j).filter test := by
    refine List.mem_filter.2 ⟨List.mem_iff_getElem?.2 ⟨0, ?_⟩, hb⟩
    rw [List.getElem?_drop, Nat.add_zero, hj]
  have hlen := congrArg List.length (hsplit.symm.trans h)
  have hpos := List.length_pos_of_mem hfirst
  have hpos' := List.length_pos_of_mem hsecond
  rw [List.length_append, List.length_singleton] at hlen
  omega

namespace Service

namespace World

/-! ### Publishes only -/

/-- All jobs are publishes. -/
def AllPublish {σ : Type} (w : World σ) : Prop :=
  ∀ job ∈ w.jobs, ∃ p progress, job = .publish p progress

section

variable {σ : Type}

theorem allPublish_opening (s : σ) (publishes : List Publish) :
    (opening s (publishes.map .publish)).AllPublish := by
  intro job hjob
  obtain ⟨request, hrequest, rfl⟩ := List.mem_map.1 hjob
  obtain ⟨p, -, rfl⟩ := List.mem_map.1 hrequest
  exact ⟨p, _, rfl⟩

theorem AllPublish.not_revives {w : World σ} (h : w.AllPublish) (t : Turn) (rs : List Record) :
    ¬w.Revives t rs := by
  rintro ⟨job, hjob, hrev⟩
  obtain ⟨p, progress, rfl⟩ := h job (List.mem_of_getElem? hjob)
  exact hrev

variable [Store σ]

theorem AllPublish.turn {w : World σ} (h : w.AllPublish) (t : Turn) : (w.turn t).AllPublish := by
  cases hjob : w.jobs[t.job]? with
  | none =>
      rw [turn_of_none hjob]
      exact h
  | some job =>
      rw [turn_of_some hjob]
      intro job₁ hjob₁
      rcases List.mem_or_eq_of_mem_set hjob₁ with hold | rfl
      · exact h job₁ hold
      · obtain ⟨p, progress, rfl⟩ := h job (List.mem_of_getElem? hjob)
        cases progress <;> exact ⟨p, _, rfl⟩

theorem AllPublish.run {w : World σ} (h : w.AllPublish) (ts : List Turn) :
    (w.run ts).AllPublish := by
  -- a turn moves a job on and never makes a publish an edit
  induction ts generalizing w with
  | nil => exact h
  | cons t ts ih => exact ih (h.turn t)

theorem orderly_run [Ledger σ] {s : σ} (hs : Ledger.Keeps s []) (publishes : List Publish)
    {ts : List Turn} (hf : Turns.Fair ts) :
    ∃ rs, Ledger.Keeps ((opening s (publishes.map .publish)).run ts).store rs ∧ Orderly rs := by
  obtain ⟨rs, hsteady, hsound⟩ := (steady_opening s _).run (sound_opening _ hs) hf
    (fun _ _ => List.not_mem_nil) fun us t _ =>
      .inr fun rs _ => ((allPublish_opening s publishes).run us).not_revives t rs
  exact ⟨rs, hsound.keeps, hsteady.orderly⟩

end

/-- **Any publishes leave well kept records**: however their calls interleave, after each of them the
records of every name share an identity of their own, repeat no version, and the one that is flagged
is at least as high as all others, in a list and in a table alike. -/
theorem publishes_converge (publishes : List Publish) {ts : List Turn} (hf : Turns.Fair ts) :
    (∀ r ∈ ((opening ({} : Memory) (publishes.map .publish)).run ts).store.records,
      WellKept ((opening ({} : Memory) (publishes.map .publish)).run ts).store.records r.name) ∧
    ∃ rs, ((opening ({} : Rows) (publishes.map .publish)).run ts).store.rows =
      rs.map Row.ofRecord ∧ ∀ r ∈ rs, WellKept rs r.name := by
  constructor
  · obtain ⟨rs, ⟨-, rfl⟩, horderly⟩ := orderly_run Memory.keeps_empty publishes hf
    exact fun r hr => horderly.wellKept hr
  · obtain ⟨rs, ⟨-, hrows⟩, horderly⟩ := orderly_run Rows.keeps_empty publishes hf
    exact ⟨rs, hrows, fun r hr => horderly.wellKept hr⟩

/-- Two publishes that both find the name without versions: the second one has to look again, and
demotes the version of the first. -/
theorem publishes_converge_race :
    Turns.Fair (Race.turns [0, 1, 0, 1, 1, 1]) ∧
    ((opening ({} : Memory) ([Race.publish "1.0.0", Race.publish "2.0.0"].map .publish)).run
      (Race.turns [0, 1, 0, 1, 1, 1])).store.records.map
        (fun r => (r.version, r.isLatest)) = [("1.0.0", false), ("2.0.0", true)] ∧
    ∀ r ∈ ((opening ({} : Memory) ([Race.publish "1.0.0", Race.publish "2.0.0"].map .publish)).run
      (Race.turns [0, 1, 0, 1, 1, 1])).store.records,
      WellKept ((opening ({} : Memory)
        ([Race.publish "1.0.0", Race.publish "2.0.0"].map .publish)).run
          (Race.turns [0, 1, 0, 1, 1, 1])).store.records r.name := by
  have hf : Turns.Fair (Race.turns [0, 1, 0, 1, 1, 1]) := ⟨by decide, by decide⟩
  exact ⟨hf, rfl, (publishes_converge [Race.publish "1.0.0", Race.publish "2.0.0"] hf).1⟩

/-! ### Publishes and edits -/

variable {rs : List Record} {used : List Uuid}

/-- In a list, a save that puts a flag back leaves a name with two flagged records. -/
theorem not_singleLatest_of_revives {w : World Memory} {t : Turn}
    (hs : w.Sound w.store.records used) (h : Orderly w.store.records)
    (hrev : w.Revives t w.store.records) : ¬SingleLatest (w.turn t).store.records := by
  obtain ⟨job, hjob, hrev⟩ := hrev
  unfold Job.Revives at hrev
  split at hrev
  · rename_i e u
    obtain ⟨hu, r, hr, hv, hflag⟩ := hrev
    obtain ⟨i, hi, hj⟩ := h.distinct.exists_place hr hv
    obtain ⟨hid, hm, -⟩ := hs.jobs _ (List.mem_of_getElem? hjob)
    have hafter : (w.turn t).store.records = w.store.records.set i u := by
      have hcall : Store.call (.update e.id u) t.moment.now w.store =
          (.ok u, { w.store with records := w.store.records.set i u }) := by
        simp only [Store.call, Memory.update, hs.keeps.1, Bool.false_eq_true, if_false, hi]
      simp only [World.turn, hjob, Job.turn, Machine.step, Edit.machine, Edit.ask, within_eq_call,
        hcall]
    have hlt := (List.getElem?_eq_some_iff.1 hj).1
    have himp : r.imprint = u.imprint := h.distinct.imprint_eq (hid ▸ hi) hj hm
    -- the record that leads the name is another one, and stays where it is
    obtain ⟨l, hl, hln, hlf, -⟩ := h.led r.imprint (List.mem_map_of_mem hr)
    obtain ⟨k, hk⟩ := List.mem_iff_getElem?.1 hl
    have hne : i ≠ k := by
      rintro rfl
      obtain rfl : r = l := Option.some_inj.1 (hj.symm.trans hk)
      simp [hflag] at hlf
    have hu' : (w.store.records.set i u)[i]? = some u := List.getElem?_set_self hlt
    have hl' : (w.store.records.set i u)[k]? = some l := by rw [List.getElem?_set_ne hne, hk]
    have hlu : l.name = u.name := hln.trans (congrArg Imprint.name himp)
    rw [hafter]
    intro hsingle
    obtain ⟨x, hx⟩ := hsingle u (List.mem_of_getElem? hu')
    rcases Nat.lt_or_gt_of_ne hne with hlt' | hgt
    · exact filter_ne_singleton hlt' hu' hl' (by simp [hu]) (by simp [hlf, hlu]) hx
    · exact filter_ne_singleton hgt hl' hu' (by simp [hlf, hlu]) (by simp [hu]) hx
  · exact hrev.elim

/-- A world of a list is steady after a run in which no turn puts a flag back. -/
theorem steady_run (requests : List Request) {ts : List Turn} (hf : Turns.Fair ts)
    (hno : ∀ us t, us ++ [t] <+: ts → ¬((opening ({} : Memory) requests).run us).Revives t
      ((opening ({} : Memory) requests).run us).store.records) :
    ((opening ({} : Memory) requests).run ts).Steady
        ((opening ({} : Memory) requests).run ts).store.records ∧
      ((opening ({} : Memory) requests).run ts).Sound
        ((opening ({} : Memory) requests).run ts).store.records
        ((ts.map fun t => t.moment.freshId).reverse ++ []) := by
  obtain ⟨rs, hsteady, hsound⟩ := (steady_opening ({} : Memory) requests).run
    (sound_opening requests Memory.keeps_empty) hf (fun _ _ => List.not_mem_nil)
    fun us t hpre => .inr fun rs hrs => hrs.2 ▸ hno us t hpre
  obtain ⟨-, rfl⟩ := hsound.keeps
  exact ⟨hsteady, hsound⟩

/-- **When publishes and edits leave one flagged record per name**: in a table always, after every
call; in a list after every call exactly if no edit puts a flag back that its version has lost since
it was read. -/
theorem single_latest_iff (requests : List Request) {ts : List Turn} (hf : Turns.Fair ts) :
    (∃ rs, ((opening ({} : Rows) requests).run ts).store.rows = rs.map Row.ofRecord ∧
      SingleLatest rs) ∧
    ((∀ us, us <+: ts → SingleLatest ((opening ({} : Memory) requests).run us).store.records) ↔
      ∀ us t, us ++ [t] <+: ts → ¬((opening ({} : Memory) requests).run us).Revives t
        ((opening ({} : Memory) requests).run us).store.records) := by
  refine ⟨?_, fun hsingle us => ?_, fun hno us hpre => ?_⟩
  · obtain ⟨rs, hsteady, hsound⟩ := (steady_opening ({} : Rows) requests).run
      (sound_opening requests Rows.keeps_empty) hf (fun _ _ => List.not_mem_nil)
      fun _ _ _ => .inl trivial
    exact ⟨rs, hsound.keeps.2, hsteady.orderly.singleLatest⟩
  · -- by induction on the turns before: the first flag put back leaves two flagged records
    induction hn : us.length using Nat.strongRecOn generalizing us with
    | _ n ih =>
        intro t hpre hrev
        have hus : us <+: ts := (List.prefix_append us [t]).trans hpre
        obtain ⟨hsteady, hsound⟩ := steady_run requests
          (hf.of_isPrefix hus) fun vs v hvs => by
            have hlen := hvs.length_le
            rw [List.length_append, List.length_singleton] at hlen
            exact ih vs.length (by omega) vs rfl v (hvs.trans hus)
        refine not_singleLatest_of_revives hsound hsteady.orderly hrev ?_
        have hafter := hsingle (us ++ [t]) hpre
        rwa [run_append] at hafter
  · obtain ⟨hsteady, -⟩ := steady_run requests (hf.of_isPrefix hpre)
      fun vs v hvs => hno vs v (hvs.trans hpre)
    exact hsteady.orderly.singleLatest

/-- An edit reads a version, a publish demotes it, and the edit is saved with its copy. -/
theorem not_singleLatest_race : ¬SingleLatest ((opening ({} : Memory)
    [.publish (Race.publish "1.0.0"), .publish (Race.publish "2.0.0"), .edit Race.edit]).run
      (Race.turns [0, 0, 2, 1, 1, 2])).store.records := by
  rw [singleLatest_iff_length]
  decide +kernel

/-- The race goes well in a table, where the edit is refused; in a list the edit puts the flag back. -/
theorem single_latest_iff_race :
    Turns.Fair (Race.turns [0, 0, 2, 1, 1, 2]) ∧
    (∃ rs, ((opening ({} : Rows) [.publish (Race.publish "1.0.0"),
        .publish (Race.publish "2.0.0"), .edit Race.edit]).run
          (Race.turns [0, 0, 2, 1, 1, 2])).store.rows = rs.map Row.ofRecord ∧ SingleLatest rs) ∧
    ∃ us t, us ++ [t] <+: Race.turns [0, 0, 2, 1, 1, 2] ∧
      ((opening ({} : Memory) [.publish (Race.publish "1.0.0"), .publish (Race.publish "2.0.0"),
        .edit Race.edit]).run us).Revives t
          ((opening ({} : Memory) [.publish (Race.publish "1.0.0"),
            .publish (Race.publish "2.0.0"), .edit Race.edit]).run us).store.records := by
  have hf : Turns.Fair (Race.turns [0, 0, 2, 1, 1, 2]) := ⟨by decide, by decide⟩
  obtain ⟨htable, hlist⟩ := single_latest_iff [.publish (Race.publish "1.0.0"),
    .publish (Race.publish "2.0.0"), .edit Race.edit] hf
  refine ⟨hf, htable, Classical.byContradiction fun hno => ?_⟩
  refine not_singleLatest_race (hlist.2 (fun us t hpre hrev => ?_) _ (List.prefix_refl _))
  exact hno ⟨us, t, hpre, hrev⟩

/-- Publishes and edits may leave a name with two flagged records in a list. -/
theorem exists_two_latest : ∃ (requests : List Request) (ts : List Turn), Turns.Fair ts ∧
    ¬SingleLatest ((opening ({} : Memory) requests).run ts).store.records :=
  ⟨_, _, ⟨by decide, by decide⟩, not_singleLatest_race⟩

end World

end Service

end ManifestRegistry
