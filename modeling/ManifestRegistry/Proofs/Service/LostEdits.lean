/-
**When an edit is lost to a publish.**

Once an edit has gone through, its manifest and bag stay stored for the version until the next edit of
it, exactly if no publish demotes the version with a copy that has another manifest or bag.  Such a copy
was read before the edit was saved.  A demotion changes the flag and the time of change only, exactly
if its copy is not out of date in this way.

Main definitions:

* `Service.World.Changes` — what a call changes about stored records;
* `Service.World.Fate` — what becomes of an edit that has gone through.

Main results:

* `Service.World.edit_kept_iff` — **when an edit is kept**, in a list and in a table.
-/

import ManifestRegistry.Proofs.Service.Overwrites
import ManifestRegistry.Proofs.Storage.Rows

set_option relaxedAutoImplicit false
set_option autoImplicit false

namespace ManifestRegistry

namespace Service

open Storage

namespace World

/-- A call leaves a stored record as it is or puts another one in its place.  What a publish puts there
is the record demoted exactly if it has the record's manifest and bag. -/
def Changes {σ : Type} [Store σ] (w : World σ) (t : Turn) (rs rs' : List Record) : Prop :=
  ∀ r ∈ rs, r ∈ rs' ∨ ∃ job x, w.Lands t job x ∧ x.isVersion r.id r.version = true ∧ x ∈ rs' ∧
    (job.IsEdit ∨ (x = r.demoted x.updatedAt ↔ x.SameContent r))

/-- What becomes of an edit that has put `u` in place at a turn, the turns `us` having followed without
another edit of the version and `rs` being stored then. -/
structure Fate {σ : Type} [Store σ] (w : World σ) (t : Turn) (us : List Turn) (u : Record)
    (legible : Prop) (rs : List Record) : Prop where
  /-- The version has the content saved exactly if every demotion that has landed on it had. -/
  kept : ∃ r ∈ rs, r.isVersion u.id u.version = true ∧ (r.SameContent u ↔
    ∀ vs v, vs ++ [v] <+: us → ∀ job d, ((w.turn t).run vs).Lands v job d →
      d.isVersion u.id u.version = true → d.SameContent u)
  /-- If the content is lost, a publish has landed a copy that it held before the edit was saved. -/
  stale : legible → (∀ r ∈ rs, r.isVersion u.id u.version = true → ¬r.SameContent u) →
    ∃ vs v job d, vs ++ [v] <+: us ∧ ((w.turn t).run vs).Lands v job d ∧
      d.isVersion u.id u.version = true ∧ ¬d.SameContent u ∧ w.Held v.job d

section

variable {σ : Type} [Store σ] [Ledger σ] {w : World σ} {t : Turn} {us : List Turn}
  {rs rs' : List Record} {used : List Uuid} {e : Edit} {u : Record}

/-- What a call changes about stored records. -/
theorem Sound.changes (h : w.Sound rs used) (hm : w.Moves t rs rs' (w.turn t)) :
    w.Changes t rs rs' := by
  intro r hr
  rcases h.mem_or_lands hm hr with hmem | ⟨job, x, hl, he, hmem⟩
  · exact .inl hmem
  · refine .inr ⟨job, x, hl, isVersion_of_imprint he, hmem, ?_⟩
    obtain ⟨-, -, hedit | ⟨hflag, -⟩⟩ := h.of_lands hm hl
    · exact .inl hedit
    · exact .inr (Record.eq_demoted_iff he hflag)

/-- An edit that has gone through holds nothing, and all other jobs hold what they held. -/
theorem copies_of_save (hm : w.Moves t rs rs' (w.turn t))
    (hl : w.Lands t (.edit e (.running (.save u))) u) : (w.turn t).Copies w u := by
  have hjob := hl.turn
  generalize w.turn t = w' at hm
  cases hm with
  | nobody hnone =>
      rw [hjob] at hnone
      cases hnone
  | @somebody job job' _ s hjob' hm =>
      obtain rfl : job = .edit e (.running (.save u)) := Option.some_inj.1 (hjob'.symm.trans hjob)
      have hnone : ∀ x, ¬job'.Holds x := by
        intro x
        cases hm with
        | rest => exact id
        | reopen e phase h => exact id
        | save => exact id
      intro i job x hi hx _
      rw [List.getElem?_set] at hi
      split at hi
      · split at hi
        · obtain rfl := Option.some_inj.1 hi
          exact (hnone x hx).elim
        · cases hi
      · exact .inr ⟨job, x, hi, hx, rfl, .refl x⟩

/-- **What becomes of an edit that has gone through.** -/
theorem Sound.fate (h : w.Sound rs used) (hf : Turns.Fair (t :: us))
    (hnew : ∀ v ∈ t :: us, v.moment.freshId ∉ used)
    (hl : w.Lands t (.edit e (.running (.save u))) u) (hun : (w.turn t).Unedited us u) :
    ∃ rs', Ledger.Keeps ((w.turn t).run us).store rs' ∧
      w.Fate t us u (Ledger.Legible σ u.bag) rs' := by
  obtain ⟨rs₁, hm, h₁⟩ := h.turn (hf.readings t List.mem_cons_self) (hnew t List.mem_cons_self)
  obtain ⟨hf', hnew'⟩ := hf.tail hnew
  have hu := (h.of_lands hm hl).2.1
  rcases kept_or_lost h₁ hu rfl (.refl u) (fun _ => copies_of_save hm hl) hf' hnew' hun with
    ⟨rs', used', r, h', hr, himp, hsame, hland⟩ |
    ⟨vs, v, job, d, rs', used', hpre, hd, he, hne, h', hdmem, hheld⟩
  · refine ⟨rs', h'.keeps, ⟨r, hr, isVersion_of_imprint himp, ?_⟩, fun _ hlost => ?_⟩
    · exact ⟨fun _ => hland, fun _ => hsame⟩
    · exact absurd hsame (hlost r hr (isVersion_of_imprint himp))
  · have hv := isVersion_of_imprint he
    refine ⟨rs', h'.keeps, ⟨d, hdmem, hv, ?_⟩, fun hleg _ => ?_⟩
    · exact ⟨fun hsame => absurd hsame hne, fun hland => hland vs v hpre job d hd hv⟩
    · exact ⟨vs, v, job, d, hpre, hd, hv, hne, hheld hleg⟩

/-- What a call changes about stored records after any run, and what becomes of an edit that goes
through at it. -/
theorem fate_of_run {s : σ} (hs : Ledger.Keeps s []) (requests : List Request) {ts : List Turn}
    (hf : Turns.Fair (ts ++ t :: us)) :
    ∃ rs rs', Ledger.Keeps ((opening s requests).run ts).store rs ∧
      Ledger.Keeps (((opening s requests).run ts).turn t).store rs' ∧
      ((opening s requests).run ts).Changes t rs rs' ∧
      ∀ e u, ((opening s requests).run ts).Lands t (.edit e (.running (.save u))) u →
        (((opening s requests).run ts).turn t).Unedited us u →
        ∃ rs'', Ledger.Keeps ((((opening s requests).run ts).turn t).run us).store rs'' ∧
          ((opening s requests).run ts).Fate t us u (Ledger.Legible σ u.bag) rs'' := by
  obtain ⟨rs, h⟩ := sound_run requests hs hf.left
  obtain ⟨hf', hnew⟩ := hf.right
  have hnew' : ∀ v ∈ t :: us, v.moment.freshId ∉
      (ts.map fun t => t.moment.freshId).reverse ++ [] := by
    intro v hv
    rw [List.append_nil, List.mem_reverse]
    exact hnew v hv
  obtain ⟨rs', hm, h'⟩ :=
    h.turn (hf'.readings t List.mem_cons_self) (hnew' t List.mem_cons_self)
  exact ⟨rs, rs', h.keeps, h'.keeps, h.changes hm, fun e u hl hun => h.fate hf' hnew' hl hun⟩

end

/-- **When an edit is kept.**  After any run, a call leaves stored records as they are or puts others
in their place, and what a publish puts in place of a record is that record demoted exactly if it has
the same manifest and bag.  If at that call an edit goes through, then after any turns without another
edit of the version, its manifest and bag are stored exactly if no demotion with others has landed; and
if they are not, a publish has landed a copy that it held before the edit did.  This is so in a list,
and in a table as well, where the last part asks for a bag that is read back as it is. -/
theorem edit_kept_iff (requests : List Request) {ts us : List Turn} {t : Turn}
    (hf : Turns.Fair (ts ++ t :: us)) :
    (∀ w : World Memory, w = (opening {} requests).run ts →
      w.Changes t w.store.records (w.turn t).store.records ∧
      ∀ e u, w.Lands t (.edit e (.running (.save u))) u → (w.turn t).Unedited us u →
        w.Fate t us u True ((w.turn t).run us).store.records) ∧
    (∀ w : World Rows, w = (opening {} requests).run ts →
      ∃ rs rs', w.store.rows = rs.map Row.ofRecord ∧
        (w.turn t).store.rows = rs'.map Row.ofRecord ∧ w.Changes t rs rs' ∧
        ∀ e u, w.Lands t (.edit e (.running (.save u))) u → (w.turn t).Unedited us u →
          ∃ rs'', ((w.turn t).run us).store.rows = rs''.map Row.ofRecord ∧
            w.Fate t us u u.bag.Lossless rs'') := by
  constructor
  · rintro w rfl
    obtain ⟨rs, rs', ⟨-, rfl⟩, ⟨-, rfl⟩, hchanges, hfate⟩ :=
      fate_of_run Memory.keeps_empty requests hf
    refine ⟨hchanges, fun e u hl hun => ?_⟩
    obtain ⟨rs'', ⟨-, rfl⟩, h⟩ := hfate e u hl hun
    exact h
  · rintro w rfl
    obtain ⟨rs, rs', ⟨-, hrows⟩, ⟨-, hrows'⟩, hchanges, hfate⟩ :=
      fate_of_run Rows.keeps_empty requests hf
    refine ⟨rs, rs', hrows, hrows', hchanges, fun e u hl hun => ?_⟩
    obtain ⟨rs'', ⟨-, hrows''⟩, h⟩ := hfate e u hl hun
    exact ⟨rs'', hrows'', h⟩

/-! ### A race that loses an edit -/

/-- What the edit of the race saves. -/
def raceEdited : Record where
  manifest := Race.manifest "1.0.0" "edited"
  registration := .new ⟨0⟩ .epoch true
  publishedBy := some "s"

/-- The race when both the publish of the second version and the edit have read the first one. -/
def raceOpen {σ : Type} [Store σ] (s : σ) : World σ :=
  (opening s [.publish (Race.publish "1.0.0"), .publish (Race.publish "2.0.0"),
    .edit Race.edit]).run (Race.turns [0, 0, 1, 2])

/-- The turn at which the edit of the race is saved. -/
def raceSave : Turn := ⟨2, ⟨.epoch, ⟨4⟩⟩⟩

/-- The turn at which the publish of the race commits. -/
def raceCommit : Turn := ⟨1, ⟨.epoch, ⟨5⟩⟩⟩

theorem race_fair : Turns.Fair (Race.turns [0, 0, 1, 2] ++ raceSave :: [raceCommit]) :=
  ⟨by decide, by decide⟩

theorem race_lands : (raceOpen ({} : Memory)).Lands raceSave
    (.edit Race.edit (.running (.save raceEdited))) raceEdited where
  turn := rfl
  overwrite := rfl
  succeeded := ⟨_, rfl, trivial⟩

theorem race_unedited :
    ((raceOpen ({} : Memory)).turn raceSave).Unedited [raceCommit] raceEdited := by
  intro us t hpre job x hl hedit
  have hus : us = [] ∧ t = raceCommit := by
    cases us with
    | nil => exact ⟨rfl, (List.cons_prefix_cons.1 hpre).1⟩
    | cons u us =>
        have hlen := hpre.length_le
        simp at hlen
  obtain ⟨rfl, rfl⟩ := hus
  have hjob : ∃ progress, ((raceOpen ({} : Memory)).turn raceSave).jobs[raceCommit.job]? =
      some (.publish (Race.publish "2.0.0") progress) := ⟨_, rfl⟩
  obtain ⟨progress, hjob⟩ := hjob
  obtain rfl := Option.some_inj.1 (hl.turn.symm.trans hjob)
  exact hedit.elim

/-- In the end the version has the manifest that the publish has read. -/
theorem race_lost : ∀ r ∈ (((raceOpen ({} : Memory)).turn raceSave).run [raceCommit]).store.records,
    r.isVersion raceEdited.id raceEdited.version = true → r.manifest ≠ raceEdited.manifest := by
  decide +kernel

/-- In the race, what becomes of the edit is that the publish has landed a copy from before. -/
theorem edit_kept_iff_race :
    Turns.Fair (Race.turns [0, 0, 1, 2] ++ raceSave :: [raceCommit]) ∧
    ∃ vs v job d, vs ++ [v] <+: [raceCommit] ∧
      (((raceOpen ({} : Memory)).turn raceSave).run vs).Lands v job d ∧
      d.isVersion raceEdited.id raceEdited.version = true ∧ ¬d.SameContent raceEdited ∧
      (raceOpen ({} : Memory)).Held v.job d := by
  refine ⟨race_fair, ?_⟩
  obtain ⟨-, hfate⟩ := (edit_kept_iff _ race_fair).1 (raceOpen {}) rfl
  refine (hfate _ _ race_lands race_unedited).stale trivial ?_
  intro r hr hv hsame
  exact race_lost r hr hv hsame.manifest

/-- An edit may go through and its manifest be gone, although no edit has followed. -/
theorem exists_lost_edit : ∃ (requests : List Request) (ts us : List Turn) (t : Turn) (e : Edit)
    (u : Record), Turns.Fair (ts ++ t :: us) ∧
    ((opening ({} : Memory) requests).run ts).Lands t (.edit e (.running (.save u))) u ∧
    (((opening ({} : Memory) requests).run ts).turn t).Unedited us u ∧
    ∀ r ∈ ((((opening ({} : Memory) requests).run ts).turn t).run us).store.records,
      r.isVersion u.id u.version = true → r.manifest ≠ u.manifest :=
  ⟨_, _, _, _, _, _, race_fair, race_lands, race_unedited, race_lost⟩

end World

end Service

end ManifestRegistry
