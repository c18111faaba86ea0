/-
**How many versions a name gets.**

A publish reads the versions of its name and goes on only if there is room for another one; the commit
that follows asks for the owner, the version and the latest flag, but not for the room.  So the ceiling is
kept as long as no commit goes through after others have used up the room that its last reading had found.
The commit does notice some of them: a version that takes the flag does not go through after another one
has taken it.

Main definitions:

* `Storage.stock` — how many records of a name a store lists;
* `Service.World.Paused`, `Service.World.Landed` — the turns since the last call of a job, and how many
  versions of a name are committed in them;
* `Service.World.Outruns` — **a commit that goes through though the room has been used up**;
* `Service.World.Ceiling` — what is claimed of a run.

Main results:

* `Service.Publish.Counts.receive_page` — a lookup counts the versions there are at its last page;
* `Service.Publish.Lost.committed` — a plan that has lost stays so;
* `Service.World.tallied_run` — what is known after any run of publishes;
* `Service.World.ceiling_kept_iff` — **the ceiling is kept exactly as long as no commit outruns it**.
-/

import ManifestRegistry.Proofs.Service.Rivals
import ManifestRegistry.Proofs.Storage.Cabinet

set_option relaxedAutoImplicit false
set_option autoImplicit false

namespace ManifestRegistry

/-! ### Counting versions -/

namespace Storage

/-- How many records of a name a store lists. -/
def stock {σ : Type} [Store σ] [Catalog σ] (s : σ) (name : String) : Nat :=
  (Catalog.selected s { name := some name }).length

theorem Memory.stock_eq (m : Memory) (name : String) :
    stock m name = m.records.countP fun r => r.name = name := by
  show (((sequenced m.records).filter fun a =>
    ({ name := some name } : Filter).selects a.2).map Entry.shown).length = _
  simp only [selects_name]
  have hcount := congrArg List.length (map_snd_numbered m.records name)
  rw [List.length_map] at hcount
  rw [List.length_map, List.countP_eq_length_filter]
  exact hcount

theorem Rows.stock_eq (t : Rows) (name : String) :
    stock t name = t.rows.countP fun row => row.name = name := by
  show (((sequenced t.rows).filter fun a => a.2.selectedBy { name := some name }).map
    fun a => (a.1, a.2.record?)).length = _
  have hfilter := List.filter_map (f := Prod.snd) (p := fun row : Row => row.name = name)
    (l := sequenced t.rows)
  rw [map_snd_sequenced] at hfilter
  rw [List.length_map, List.countP_eq_length_filter, hfilter, List.length_map]
  simp only [selectedBy_name]
  rfl

variable {σ : Type} [Store σ] [Ledger σ] [Catalog σ] [Candid σ] {s : σ} {rs rs' : List Record}

theorem stock_of_keeps (hk : Ledger.Keeps s rs) (hr : ∀ r ∈ rs, r.IsDated) (name : String) :
    stock s name = (numbered rs name).length := by
  obtain ⟨read, -, hselected⟩ := Candid.named hk hr name
  rw [stock, hselected, List.length_map]

theorem map_fst_numbered (rs : List Record) (name : String) : (numbered rs name).map Prod.fst =
    (((rs.map Record.imprint).zipIdx 1).filter fun a => a.1.name = name).map Prod.snd := by
  rw [numbered, Memory.sequenced, List.zipIdx_map, List.filter_map, List.filter_map, List.map_map,
    List.map_map]
  rfl

theorem map_fst_numbered_prefix (h : rs.map Record.imprint <+: rs'.map Record.imprint)
    (name : String) : (numbered rs name).map Prod.fst <+: (numbered rs' name).map Prod.fst := by
  obtain ⟨added, hadded⟩ := h
  rw [map_fst_numbered, map_fst_numbered, ← hadded, List.zipIdx_append, List.filter_append,
    List.map_append]
  exact List.prefix_append _ _

end Storage

namespace Service

open Storage

namespace Publish

variable {p : Publish} {rs rs' : List Record} {c : Collect} {plan : Plan} {left : Nat}
  {moment : Moment}

/-- A lookup has read as many records as there are in front of its cursor. -/
def Counts (rs : List Record) (p : Publish) (c : Collect) : Prop :=
  ∃ done rest, numbered rs p.manifest.name = done ++ rest ∧ c.records.length = done.length ∧
    c = { lookup p.config p.manifest.name with cursor := Page.after done, records := c.records }

theorem counts_lookup (rs : List Record) (p : Publish) :
    Counts rs p (lookup p.config p.manifest.name) :=
  ⟨[], numbered rs p.manifest.name, rfl, rfl, rfl⟩

theorem after_eq_of_map_fst {α β : Type} {as : List (Nat × α)} {bs : List (Nat × β)}
    (h : as.map Prod.fst = bs.map Prod.fst) : Page.after as = Page.after bs := by
  have hunit : ∀ {γ : Type} (cs : List (Nat × γ)),
      Page.after cs = Page.after ((cs.map Prod.fst).map fun n => (n, ())) := by
    intro γ cs
    rw [List.map_map]
    exact (after_map cs fun _ => ()).symm
  rw [hunit as, hunit bs, h]

theorem Counts.grow (h : Counts rs p c) (hpre : rs.map Record.imprint <+: rs'.map Record.imprint) :
    Counts rs' p c := by
  obtain ⟨done, rest, hsplit, hlen, hc⟩ := h
  obtain ⟨more, hmore⟩ := map_fst_numbered_prefix hpre p.manifest.name
  rw [hsplit, List.map_append, List.append_assoc] at hmore
  have hsame : ((numbered rs' p.manifest.name).take done.length).map Prod.fst =
      done.map Prod.fst := by
    rw [List.map_take, ← hmore, List.take_left' (List.length_map _)]
  have hlength := congrArg List.length hsame
  rw [List.length_map, List.length_map] at hlength
  refine ⟨(numbered rs' p.manifest.name).take done.length,
    (numbered rs' p.manifest.name).drop done.length, (List.take_append_drop _ _).symm, ?_, ?_⟩
  · rw [hlength, hlen]
  · rw [after_eq_of_map_fst hsame]
    exact hc

/-- **A lookup counts the versions there are at its last page.** -/
theorem Counts.receive_page {legible : Bag → Prop} {read : Record → Except StorageError Record}
    {page : Page Record} {phase : Phase} (h : Counts rs p c)
    (hread : ∀ r ∈ rs, ∀ x, read r = .ok x → Shows legible x r)
    (hpage : listing ((numbered rs p.manifest.name).map fun a => (a.1, read a.2)) c.cursor c.pageSize =
      .ok page)
    (hto : p.receive (.lookup left c) moment (.ok page) = .running phase) :
    (∃ c', phase = .lookup left c' ∧ Counts rs p c') ∨
      ∃ plan, phase = .commit left plan ∧
        (numbered rs p.manifest.name).length < p.config.maxVersions := by
  obtain ⟨done, rest, hsplit, hlen, hc⟩ := h
  have hcursor : c.cursor = Page.after done := by rw [hc]
  have hpageSize : c.pageSize = (lookup p.config p.manifest.name).pageSize := by rw [hc]
  have hceiling : c.ceiling = (lookup p.config p.manifest.name).ceiling := by rw [hc]
  have hsize : 0 < c.pageSize := hpageSize ▸ Nat.lt_of_lt_of_le Nat.one_pos (Nat.le_max_right _ 1)
  rw [hcursor] at hpage
  obtain ⟨hnew, hturned⟩ := shows_page hsize hsplit hread hpage
  have hall : (c.records ++ page.items).length = (done ++ rest.take c.pageSize).length := by
    rw [List.length_append, List.length_append, hlen, hnew.length_eq, List.length_map]
  rcases receive_page_cases hceiling hto with ⟨cursor, hnext, rfl⟩ | ⟨plan, hnext, hplan, rfl⟩ <;>
    rcases hturned with ⟨hlast, hrest⟩ | ⟨cursor', hmore, hafter⟩
  · rw [hlast] at hnext
    cases hnext
  · obtain rfl := Option.some_inj.1 (hmore.symm.trans hnext)
    refine .inl ⟨_, rfl, done ++ rest.take c.pageSize, rest.drop c.pageSize, ?_, hall, ?_⟩
    · rw [hsplit, List.append_assoc, List.take_append_drop]
    · rw [← hafter, hc]
  · -- the last page: all versions have been counted, and there is room
    rw [List.take_of_length_le (List.drop_eq_nil_iff.1 hrest), ← hsplit] at hall
    exact .inr ⟨plan, rfl, hall ▸ (plan_eq_ok.1 hplan).2.1⟩
  · rw [hmore] at hnext
    cases hnext

/-! ### Plans that have lost -/

/-- What a plan to take the flag was made for is gone: what it is to demote is not flagged, or the name
has a version and it is to demote none. -/
def Lost (rs : List Record) (plan : Plan) : Prop :=
  match plan.demoted with
  | some d => ∀ r ∈ rs, r.isVersion d.id d.version = true → r.isLatest = false
  | none => ∃ r ∈ rs, r.name = plan.record.name

/-- **Such a plan does not go through.** -/
theorem Lost.not_committed (h : Lost rs plan) (ho : Orderly rs) (hl : plan.record.isLatest = true) :
    Memory.committed rs plan.record plan.demoted ≠ .ok rs' := by
  intro hc
  obtain ⟨-, rs₁, hd, hins⟩ := Memory.committed_eq_ok.1 hc
  unfold Lost at h
  cases hdem : plan.demoted with
  | none =>
      rw [hdem] at h hd
      obtain rfl : rs = rs₁ := Except.ok.inj hd
      obtain ⟨r, hr, hname⟩ := h
      obtain ⟨l, hmem, hn, hflag, -⟩ := ho.led _ (List.mem_map_of_mem hr)
      have hno := (Memory.insert_eq_ok.1 hins).2.1 hl l hmem (hn.trans hname)
      rw [hflag] at hno
      cases hno
  | some d =>
      rw [hdem] at h hd
      obtain ⟨i, r, hi, hr, hflag, -⟩ := Memory.demote_eq_ok.1 hd
      obtain ⟨s, hs, hv⟩ := Memory.place?_eq_some hi
      obtain rfl : s = r := Option.some_inj.1 (hs.symm.trans hr)
      have hno := h s (List.mem_of_getElem? hr) hv
      rw [hflag] at hno
      cases hno

section

variable {record : Record} {previous : Option Record}
  (hd : Distinct (rs.map Record.imprint))
  (hplanned : Planned (rs.map Record.imprint) plan.record plan.demoted)
  (hp : ∀ d, previous = some d → d.imprint ∈ rs.map Record.imprint ∧ d.isLatest = false)
  (hc : Memory.committed rs record previous = .ok rs')
include hd hplanned hp hc

/-- The version that is committed is none that another plan is to demote. -/
theorem not_isVersion_committed
    (hid : ∀ m ∈ rs.map Record.imprint, m.id = record.id → m.name = record.name)
    {d : Record} (hdem : plan.demoted = some d) : record.isVersion d.id d.version = false := by
  obtain ⟨hmem, -, -, -⟩ := hplanned.demotion d hdem
  obtain ⟨-, rs₁, hdemoted, hins⟩ := Memory.committed_eq_ok.1 hc
  cases hv : record.isVersion d.id d.version with
  | false => rfl
  | true =>
      obtain ⟨hrid, hrv⟩ := Record.isVersion_iff.1 hv
      have hname : d.name = record.name := hid _ hmem hrid.symm
      rw [← hd.map_imprint_demoted (fun d hd => (hp d hd).1) hdemoted] at hmem
      obtain ⟨r, hr, himp⟩ := List.mem_map.1 hmem
      have hrn : r.name = record.name := (congrArg Imprint.name himp).trans hname
      exact absurd ((congrArg Imprint.version himp).trans hrv.symm)
        ((Memory.insert_eq_ok.1 hins).1 r hr hrn)

/-- **A plan that has lost stays so**, whatever else is committed. -/
theorem Lost.committed (h : Lost rs plan)
    (hid : ∀ m ∈ rs.map Record.imprint, m.id = record.id → m.name = record.name) : Lost rs' plan := by
  obtain ⟨-, rs₁, hdemoted, hins⟩ := Memory.committed_eq_ok.1 hc
  have himprints := hd.map_imprint_committed (fun d hd => (hp d hd).1) hc
  unfold Lost at h ⊢
  cases hdem : plan.demoted with
  | none =>
      rw [hdem] at h
      obtain ⟨r, hr, hname⟩ := h
      have hmem : r.imprint ∈ rs'.map Record.imprint := by
        rw [himprints]
        exact List.mem_append_left _ (List.mem_map_of_mem hr)
      obtain ⟨r', hr', himp⟩ := List.mem_map.1 hmem
      exact ⟨r', hr', (congrArg Imprint.name himp).trans hname⟩
  | some d =>
      rw [hdem] at h
      intro r hr hv
      obtain ⟨-, -, rfl⟩ := Memory.insert_eq_ok.1 hins
      rcases List.mem_append.1 hr with hr | hr
      · -- what was put in place of another is not flagged
        rcases Memory.mem_demoted hdemoted hr with hr | hprev
        · exact h r hr hv
        · exact (hp r hprev).2
      · obtain rfl := List.mem_singleton.1 hr
        rw [not_isVersion_committed hd hplanned hp hc hid hdem] at hv
        cases hv

/-- **A plan has lost once another version of the name takes the flag.** -/
theorem lost_of_flagged (ho : Orderly rs')
    (hid : ∀ m ∈ rs.map Record.imprint, m.id = record.id → m.name = record.name)
    (hl : record.isLatest = true) (hname : record.name = plan.record.name) : Lost rs' plan := by
  obtain ⟨-, rs₁, hdemoted, hins⟩ := Memory.committed_eq_ok.1 hc
  have himprints := hd.map_imprint_committed (fun d hd => (hp d hd).1) hc
  have hrecord : record ∈ rs' := by
    obtain ⟨-, -, rfl⟩ := Memory.insert_eq_ok.1 hins
    exact List.mem_append_right _ List.mem_cons_self
  unfold Lost
  cases hdem : plan.demoted with
  | none => exact ⟨record, hrecord, hname⟩
  | some d =>
      intro r hr hv
      obtain ⟨hmem, -, hdn, -⟩ := hplanned.demotion d hdem
      cases hflag : r.isLatest with
      | false => rfl
      | true =>
          -- it would be under the name, where only the new version is flagged
          have hmem' : d.imprint ∈ rs'.map Record.imprint := by
            rw [himprints]
            exact List.mem_append_left _ hmem
          obtain ⟨s, hs, himp⟩ := List.mem_map.1 hmem'
          have hrs : r.name = s.name := (ho.identity hr hs).2
            ((Record.isVersion_iff.1 hv).1.trans (congrArg Imprint.id himp).symm)
          have hsn : s.name = record.name :=
            (congrArg Imprint.name himp).trans (hdn.trans hname.symm)
          obtain rfl := ho.eq_of_isLatest hr hrecord (hrs.trans hsn) hflag hl
          rw [not_isVersion_committed hd hplanned hp hc hid hdem] at hv
          cases hv

end

end Publish

namespace World

/-! ### Since the last call of a job -/

section

variable {σ : Type} [Store σ]

/-- A job has made its last call in the turn `last`; those since then are the calls of others. -/
structure Paused (us : List Turn) (j : Nat) (before : List Turn) (last : Turn) (during : List Turn) :
    Prop where
  split : us = before ++ [last] ++ during
  own : last.job = j
  others : ∀ u ∈ during, u.job ≠ j

/-- So many versions of a name are committed in the turns `during`, which follow others. -/
inductive Landed (w : World σ) (start : List Turn) (name : String) : List Turn → Nat → Prop
  | nil : Landed w start name [] 0
  | commit {during : List Turn} {t : Turn} {n : Nat} (h : Landed w start name during n)
      (hc : (w.run (start ++ during)).Commits t name) : Landed w start name (during ++ [t]) (n + 1)
  | other {during : List Turn} {t : Turn} {n : Nat} (h : Landed w start name during n)
      (hno : ¬(w.run (start ++ during)).Commits t name) : Landed w start name (during ++ [t]) n

/-- A version that takes the flag of its name is committed in a turn. -/
def Leads (w : World σ) (t : Turn) (name : String) : Prop :=
  ∃ p left plan created, w.jobs[t.job]? = some (.publish p (.running (.commit left plan))) ∧
    (Store.call (.commit plan.record plan.demoted) t.moment.now w.store).1 = .ok created ∧
    plan.record.isLatest = true ∧ p.manifest.name = name

/-- **A commit goes through though the room has been used up**: since the last call of the publish, which
ended its reading, so many versions have been committed that there is no room left. -/
def Outruns [Catalog σ] (w : World σ) (m : Nat) (us : List Turn) (t : Turn) (name : String) : Prop :=
  (w.run us).Commits t name ∧ ∃ before last during n, Paused us t.job before last during ∧
    w.Landed (before ++ [last]) name during n ∧
      m ≤ stock (w.run (before ++ [last])).store name + n

/-- Turns can be counted. -/
theorem exists_landed (w : World σ) (start : List Turn) (name : String) (during : List Turn) :
    ∃ n, w.Landed start name during n := by
  induction during using List.reverseRecOn with
  | nil => exact ⟨0, .nil⟩
  | append_singleton during t ih =>
      obtain ⟨n, h⟩ := ih
      by_cases hc : (w.run (start ++ during)).Commits t name
      · exact ⟨n + 1, h.commit hc⟩
      · exact ⟨n, h.other hc⟩

end

/-! ### Publishes that are about to commit -/

variable {σ : Type} [Store σ] [Ledger σ] [Catalog σ]

/-- A publish is about to commit a plan: its last call had found room, and if another version has taken
the flag since then the plan has lost. -/
def Pending (w : World σ) (us : List Turn) (j : Nat) (rs : List Record) (p : Publish)
    (plan : Publish.Plan) : Prop :=
  ∃ before last during, Paused us j before last during ∧
    stock (w.run (before ++ [last])).store p.manifest.name < p.config.maxVersions ∧
    ((∃ vs u, vs ++ [u] <+: during ∧ (w.run (before ++ [last] ++ vs)).Leads u p.manifest.name) →
      Publish.Lost rs plan)

/-- What is known of the counting of a publish after some turns, if `rs` are stored then. -/
def Tally (w : World σ) (us : List Turn) (j : Nat) (rs : List Record) (p : Publish) :
    Progress Publish.Phase Change → Prop
  | .running (.lookup _ c) => Publish.Counts rs p c
  | .running (.commit _ plan) => w.Pending us j rs p plan
  | _ => True

variable {w w' : World σ} {us : List Turn} {t : Turn} {j : Nat} {rs rs' : List Record} {p : Publish}
  {progress : Progress Publish.Phase Change} {used used' : List Uuid} {name : String}

omit [Ledger σ] in
theorem tally_of_opened (w : World σ) (us : List Turn) (j : Nat) (rs : List Record)
    (h : p.Opened progress) : w.Tally us j rs p progress := by
  cases h with
  | lookup left => exact Publish.counts_lookup rs p
  | _ => trivial

namespace Watched

variable [Candid σ] (h : w.Watched us rs used)
include h

omit [Catalog σ] [Candid σ] in
/-- A call leaves the records alone or carries out a plan. -/
theorem records_cases (hm : (w.run us).Moves t rs rs' w') : rs' = rs ∨
    ∃ q left plan, (w.run us).jobs[t.job]? = some (.publish q (.running (.commit left plan))) ∧
      Memory.committed rs plan.record plan.demoted = .ok rs' := by
  cases hm with
  | nobody => exact .inl rfl
  | @somebody job job' _ s hjob hm =>
      obtain ⟨q, progress, rfl⟩ := h.publishes job (List.mem_of_getElem? hjob)
      cases hm with
      | commit _ left plan hc => exact .inr ⟨q, left, plan, hjob, hc⟩
      | _ => exact .inl rfl

omit [Catalog σ] [Candid σ] h in
theorem committed_of_answered {q : Publish} {left : Nat} {plan : Publish.Plan} {created : Record}
    (hm : (w.run us).Moves t rs rs' ((w.run us).turn t))
    (hjob : (w.run us).jobs[t.job]? = some (.publish q (.running (.commit left plan))))
    (hok : (Store.call (.commit plan.record plan.demoted) t.moment.now (w.run us).store).1 =
      .ok created) : Memory.committed rs plan.record plan.demoted = .ok rs' := by
  have hdone : ((w.run us).turn t).jobs[t.job]? =
      some (.publish q (.finished (.ok (created, q.events created plan.demoted)))) := by
    rw [jobs_turn_self hjob]
    simp only [Job.turn, Machine.step, Publish.machine, Publish.ask, within_eq_call, hok]
    rfl
  -- no other move brings a publish to this end
  generalize (w.run us).turn t = w' at hm hdone
  cases hm with
  | nobody hnone =>
      rw [hjob] at hnone
      cases hnone
  | somebody hjob' hm =>
      obtain rfl := Option.some_inj.1 (hjob'.symm.trans hjob)
      have hlt := (List.getElem?_eq_some_iff.1 hjob).1
      rw [List.getElem?_set_self hlt] at hdone
      cases hm with
      | commit _ _ _ hc => exact hc
      | rest => cases hdone
      | «open» _ _ hopened =>
          cases hdone
          cases hopened

/-- **How a call changes what there is of a name**: a commit that goes through adds one, and no other call
does anything to it. -/
theorem stock_turn (hm : (w.run us).Moves t rs rs' ((w.run us).turn t))
    (h' : w.Watched (us ++ [t]) rs' used') (name : String) :
    ((w.run us).Commits t name → stock (w.run (us ++ [t])).store name =
      stock (w.run us).store name + 1) ∧
    (¬(w.run us).Commits t name → stock (w.run (us ++ [t])).store name =
      stock (w.run us).store name) := by
  rw [stock_of_keeps h'.sound.keeps h'.sound.dated, stock_of_keeps h.sound.keeps h.sound.dated]
  refine ⟨?_, fun hno => congrArg List.length ((h.numbered_or_commits hm name).resolve_right hno)⟩
  rintro ⟨p, left, created, ⟨plan, hjob, hok⟩, hname⟩
  have hc := committed_of_answered hm hjob hok
  have hs := (h.sound.jobs _ (List.mem_of_getElem? hjob)).1
  have hown : plan.record.name = name := (h.standing _ _ _ hjob).record_name.trans hname
  have himprints := h.sound.distinct.map_imprint_committed
    (fun d hd => (hs.demotion d hd).1) hc
  have hnumbers := congrArg List.length (map_fst_numbered rs' name)
  rw [himprints, List.zipIdx_append, List.filter_append, List.map_append, List.length_append,
    ← map_fst_numbered, List.length_map, List.length_map] at hnumbers
  rw [hnumbers, List.zipIdx_singleton, List.filter_cons_of_pos (by exact decide_eq_true hown)]
  rfl

omit [Candid σ] in
/-- A plan that has been made stays pending in the call of another publish. -/
theorem pending_other {left : Nat} {plan : Publish.Plan}
    (hm : (w.run us).Moves t rs rs' ((w.run us).turn t)) (h' : w.Watched (us ++ [t]) rs' used')
    (hne : t.job ≠ j)
    (hjob : (w.run us).jobs[j]? = some (.publish p (.running (.commit left plan))))
    (hpending : w.Pending us j rs p plan) : w.Pending (us ++ [t]) j rs' p plan := by
  obtain ⟨before, last, during, hpaused, hroom, hlost⟩ := hpending
  have hplanned := (h.sound.jobs _ (List.mem_of_getElem? hjob)).1
  have hown := (h.standing _ _ _ hjob).record_name
  refine ⟨before, last, during ++ [t], ⟨?_, hpaused.own, ?_⟩, hroom, ?_⟩
  · rw [hpaused.split, List.append_assoc (before ++ [last])]
  · intro u hu
    rcases List.mem_append.1 hu with hu | hu
    · exact hpaused.others u hu
    · rwa [List.mem_singleton.1 hu]
  · rintro ⟨vs, u, hpre, hleads⟩
    rcases List.prefix_concat_iff.1 hpre with heq | hpre
    · -- the version that takes the flag is committed now
      obtain ⟨rfl, hlast⟩ := List.append_inj' heq rfl
      obtain rfl := List.singleton_inj.1 hlast
      rw [← hpaused.split] at hleads
      obtain ⟨q, left', plan', created, hjob', hok, hflag, hname⟩ := hleads
      have hs := (h.sound.jobs _ (List.mem_of_getElem? hjob')).1
      have hown' := (h.standing _ _ _ hjob').record_name
      exact Publish.lost_of_flagged h.sound.distinct hplanned hs.demoted
        (committed_of_answered hm hjob' hok) h'.steady.orderly
        (fun m hmem hid => h.sound.claim_name (List.mem_of_getElem? hjob') rfl hmem hid) hflag
        (hown'.trans (hname.trans hown.symm))
    · have hlost' := hlost ⟨vs, u, hpre, hleads⟩
      rcases h.records_cases hm with rfl | ⟨q, left', plan', hjob', hc⟩
      · exact hlost'
      · have hs := (h.sound.jobs _ (List.mem_of_getElem? hjob')).1
        exact hlost'.committed h.sound.distinct hplanned hs.demoted hc
          fun m hmem hid => h.sound.claim_name (List.mem_of_getElem? hjob') rfl hmem hid

omit [Candid σ] in
theorem tally_other (hm : (w.run us).Moves t rs rs' ((w.run us).turn t))
    (h' : w.Watched (us ++ [t]) rs' used') (hne : t.job ≠ j)
    (hjob : (w.run us).jobs[j]? = some (.publish p progress))
    (htally : w.Tally us j rs p progress) : w.Tally (us ++ [t]) j rs' p progress := by
  cases progress with
  | finished change => trivial
  | running phase =>
      cases phase with
      | quota | ownership => trivial
      | lookup left c =>
          refine Publish.Counts.grow htally ?_
          rcases h.records_cases hm with rfl | ⟨q, left', plan, hjob', hc⟩
          · exact List.prefix_rfl
          · have hs := (h.sound.jobs _ (List.mem_of_getElem? hjob')).1
            rw [h.sound.distinct.map_imprint_committed (fun d hd => (hs.demotion d hd).1) hc]
            exact List.prefix_append _ _
      | commit left plan => exact h.pending_other hm h' hne hjob htally

/-- **What a publish makes of its count in its own call.** -/
theorem tally_self (hm : (w.run us).Moves t rs rs' ((w.run us).turn t))
    (h' : w.Watched (us ++ [t]) rs' used') {phase : Publish.Phase}
    (hjob : (w.run us).jobs[t.job]? = some (.publish p (.running phase)))
    (htally : w.Tally us t.job rs p (.running phase)) :
    w.Tally (us ++ [t]) t.job rs' p (p.receive phase t.moment
      (Store.call (Publish.ask phase) t.moment.now (w.run us).store).1) := by
  cases phase with
  | quota q => exact tally_of_opened _ _ _ _ (Publish.opened_receive_quota q t.moment _)
  | ownership o => exact tally_of_opened _ _ _ _ (Publish.opened_receive_ownership o t.moment _)
  | commit left plan =>
      rcases Publish.receive_commit (p := p) left plan t.moment
        (Store.call (.commit plan.record plan.demoted) t.moment.now (w.run us).store).1 with
        ⟨created, -, hto⟩ | ⟨-, hopened⟩
      · show w.Tally _ _ _ _ (p.receive (.commit left plan) t.moment
          (Store.call (.commit plan.record plan.demoted) t.moment.now (w.run us).store).1)
        rw [hto]
        trivial
      · exact tally_of_opened _ _ _ _ hopened
  | lookup left c =>
      obtain rfl := hm.records_eq hjob fun _ _ => nofun
      have hcounts : Publish.Counts rs' p c := htally
      have hk := h.sound.keeps
      obtain ⟨read, hread, hselected⟩ := Candid.named hk h.sound.dated p.manifest.name
      have hfilter : c.filter = { name := some p.manifest.name } := by
        obtain ⟨done, rest, -, -, hc⟩ := hcounts
        rw [hc]
        rfl
      show w.Tally _ _ _ _ (p.receive (.lookup left c) t.moment
        (Store.call (.list c.filter c.cursor c.pageSize) t.moment.now (w.run us).store).1)
      rw [hfilter]
      cases hpage : (Store.call (.list { name := some p.manifest.name } c.cursor c.pageSize)
          t.moment.now (w.run us).store).1 with
      | error stop => trivial
      | ok page =>
          show w.Tally _ _ _ _ (p.receive (.lookup left c) t.moment (.ok page))
          cases hto : p.receive (.lookup left c) t.moment (.ok page) with
          | finished change => trivial
          | running phase =>
              rw [Catalog.call_list (Candid.isOpen hk), hselected] at hpage
              rcases hcounts.receive_page hread hpage hto with
                ⟨c', rfl, hcounts'⟩ | ⟨plan, rfl, hroom⟩
              · exact hcounts'
              · have hpaused : Paused (us ++ [t]) t.job us t [] :=
                  ⟨(List.append_nil _).symm, rfl, fun u hu => by cases hu⟩
                refine ⟨us, t, [], hpaused, ?_, ?_⟩
                · rwa [stock_of_keeps h'.sound.keeps h'.sound.dated]
                · rintro ⟨vs, u, hpre, -⟩
                  cases (List.append_eq_nil_iff.1 (List.prefix_nil.1 hpre)).2

end Watched

/-! ### Runs of publishes -/

/-- What is known after some turns of publishes that are held to one ceiling. -/
structure Tallied (w : World σ) (us : List Turn) (rs : List Record) (used : List Uuid) (m : Nat) :
    Prop where
  watched : w.Watched us rs used
  ceiling : ∀ (j : Nat) (p : Publish) progress, (w.run us).jobs[j]? = some (.publish p progress) →
    p.config.maxVersions = m
  tally : ∀ (j : Nat) (p : Publish) progress, (w.run us).jobs[j]? = some (.publish p progress) →
    w.Tally us j rs p progress

variable [Candid σ] {m : Nat}

/-- **A turn of publishes is tallied.** -/
theorem Tallied.turn (h : w.Tallied us rs used m) (hread : t.moment.now.IsReading)
    (hfresh : t.moment.freshId ∉ used) :
    ∃ rs', (w.run us).Moves t rs rs' ((w.run us).turn t) ∧
      w.Tallied (us ++ [t]) rs' (t.moment.freshId :: used) m := by
  obtain ⟨rs', hm, h'⟩ := h.watched.turn hread hfresh
  have hrun := w.run_append_singleton us t
  have hboth : ∀ (j : Nat) (p : Publish) progress,
      (w.run (us ++ [t])).jobs[j]? = some (.publish p progress) →
      p.config.maxVersions = m ∧ w.Tally (us ++ [t]) j rs' p progress := by
    intro j p progress hjob
    rw [hrun] at hjob
    by_cases ht : t.job = j
    · subst ht
      cases hold : (w.run us).jobs[t.job]? with
      | none =>
          rw [turn_of_none hold, hold] at hjob
          cases hjob
      | some job =>
          obtain ⟨q, progress', rfl⟩ := h.watched.publishes job (List.mem_of_getElem? hold)
          have hceil := h.ceiling _ _ _ hold
          rw [jobs_turn_self hold] at hjob
          cases progress' with
          | finished change =>
              obtain ⟨rfl, rfl⟩ := Job.publish.inj (Option.some_inj.1 hjob)
              exact ⟨hceil, trivial⟩
          | running phase =>
              obtain ⟨rfl, rfl⟩ := Job.publish.inj (Option.some_inj.1 hjob)
              exact ⟨hceil, h.watched.tally_self hm h' hold (h.tally _ _ _ hold)⟩
    · rw [jobs_turn_of_ne _ ht] at hjob
      exact ⟨h.ceiling _ _ _ hjob, h.watched.tally_other hm h' ht hjob (h.tally _ _ _ hjob)⟩
  exact ⟨rs', hm, h', fun j p progress hjob => (hboth j p progress hjob).1,
    fun j p progress hjob => (hboth j p progress hjob).2⟩

/-- **Any run of publishes is tallied.** -/
theorem tallied_run {s : σ} (hs : Ledger.Keeps s []) {publishes : List Publish}
    (hm : ∀ p ∈ publishes, p.config.maxVersions = m) (hf : Turns.Fair us) :
    ∃ rs, (opening s (publishes.map .publish)).Tallied us rs
      (us.map fun t => t.moment.freshId).reverse m := by
  induction us using List.reverseRecOn with
  | nil =>
      have hopened : ∀ (j : Nat) (p : Publish) progress,
          ((opening s (publishes.map .publish)).run []).jobs[j]? = some (.publish p progress) →
            p ∈ publishes ∧ p.Opened progress := by
        intro j p progress hjob
        obtain ⟨request, hrequest, he⟩ := List.mem_map.1 (List.mem_of_getElem? hjob)
        obtain ⟨q, hq, rfl⟩ := List.mem_map.1 hrequest
        obtain ⟨rfl, rfl⟩ := Job.publish.inj he
        exact ⟨hq, Publish.opened_start⟩
      exact ⟨[], watched_opening hs publishes, fun j p progress hjob => hm p (hopened _ _ _ hjob).1,
        fun j p progress hjob => tally_of_opened _ _ _ _ (hopened _ _ _ hjob).2⟩
  | append_singleton us t ih =>
      obtain ⟨rs, h⟩ := ih hf.left
      obtain ⟨rs', -, h'⟩ := h.turn hf.last.1 hf.last.2
      exact ⟨rs', by simpa using h'⟩

/-! ### The ceiling -/

/-- What is claimed of a run of publishes that are held to one ceiling. -/
structure Ceiling (w : World σ) (m : Nat) (us : List Turn) : Prop where
  /-- The ceiling is kept all the time exactly as long as no commit outruns it. -/
  kept_iff : (∀ vs, vs <+: us → ∀ name, stock (w.run vs).store name ≤ m) ↔
    ∀ vs t name, vs ++ [t] <+: us → ¬w.Outruns m vs t name
  /-- A commit goes through only for a publish that found room in its last call before it, and one that
  takes the flag only if no other version has taken it since then. -/
  caught : ∀ vs t name, vs ++ [t] <+: us → (w.run vs).Commits t name →
    ∃ before last during, Paused vs t.job before last during ∧
      stock (w.run (before ++ [last])).store name < m ∧
      ((w.run vs).Leads t name → ∀ vs' u, vs' ++ [u] <+: during →
        ¬(w.run (before ++ [last] ++ vs')).Leads u name)

section

variable {s : σ} (hs : Ledger.Keeps s []) {publishes : List Publish}
  (hm : ∀ p ∈ publishes, p.config.maxVersions = m)
include hs hm

/-- A commit that goes through adds a version, and no other call does anything to their number. -/
theorem stock_run (hf : Turns.Fair (us ++ [t])) (name : String) :
    let w := opening s (publishes.map .publish)
    ((w.run us).Commits t name → stock (w.run (us ++ [t])).store name =
      stock (w.run us).store name + 1) ∧
    (¬(w.run us).Commits t name → stock (w.run (us ++ [t])).store name =
      stock (w.run us).store name) := by
  obtain ⟨rs, h⟩ := tallied_run hs hm hf.left
  obtain ⟨rs', hmoves, h'⟩ := h.turn hf.last.1 hf.last.2
  exact h.watched.stock_turn hmoves h'.watched name

/-- Versions that are committed are stored. -/
theorem stock_landed {start during : List Turn} {n : Nat} (hf : Turns.Fair (start ++ during))
    (h : (opening s (publishes.map .publish)).Landed start name during n) :
    stock ((opening s (publishes.map .publish)).run (start ++ during)).store name =
      stock ((opening s (publishes.map .publish)).run start).store name + n := by
  induction h with
  | nil => rw [List.append_nil, Nat.add_zero]
  | commit h hc ih =>
      rw [← List.append_assoc] at hf ⊢
      rw [(stock_run hs hm hf name).1 hc, ih hf.left, Nat.add_assoc]
  | other h hno ih =>
      rw [← List.append_assoc] at hf ⊢
      rw [(stock_run hs hm hf name).2 hno, ih hf.left]

/-- A commit that goes through has found room in the call before it, and nobody has taken the flag since
then if it takes it. -/
theorem caught (hf : Turns.Fair (us ++ [t]))
    (hc : ((opening s (publishes.map .publish)).run us).Commits t name) :
    let w := opening s (publishes.map .publish)
    ∃ before last during, Paused us t.job before last during ∧
      stock (w.run (before ++ [last])).store name < m ∧
      ((w.run us).Leads t name → ∀ vs u, vs ++ [u] <+: during →
        ¬(w.run (before ++ [last] ++ vs)).Leads u name) := by
  intro w
  obtain ⟨rs, h⟩ := tallied_run hs hm hf.left
  obtain ⟨rs', hmoves, -⟩ := h.turn hf.last.1 hf.last.2
  obtain ⟨p, left, created, ⟨plan, hjob, hok⟩, rfl⟩ := hc
  obtain ⟨before, last, during, hpaused, hroom, hlost⟩ := h.tally _ _ _ hjob
  refine ⟨before, last, during, hpaused, h.ceiling _ _ _ hjob ▸ hroom, ?_⟩
  rintro ⟨q, left', plan', created', hjob', hok', hflag, -⟩ vs u hpre hleads
  obtain ⟨rfl, he⟩ := Job.publish.inj (Option.some_inj.1 (hjob.symm.trans hjob'))
  obtain ⟨rfl, rfl⟩ := Publish.Phase.commit.inj (Progress.running.inj he)
  exact (hlost ⟨vs, u, hpre, hleads⟩).not_committed h.watched.steady.orderly hflag
    (Watched.committed_of_answered hmoves hjob hok)

/-- Runs of publishes are as is claimed. -/
theorem ceiling_run (hf : Turns.Fair us) : (opening s (publishes.map .publish)).Ceiling m us := by
  refine ⟨⟨?_, ?_⟩, fun vs t name hpre => caught hs hm (hf.of_isPrefix hpre)⟩
  · rintro hkept vs t name hpre ⟨hc, before, last, during, n, hpaused, hlanded, hfull⟩
    have hf' := hf.of_isPrefix hpre
    have hover := hkept _ hpre name
    rw [(stock_run hs hm hf' name).1 hc, hpaused.split,
      stock_landed hs hm (hpaused.split ▸ hf'.left) hlanded] at hover
    omega
  · intro hno vs hpre name
    -- turn by turn: a commit that goes through at the ceiling would outrun it
    induction vs using List.reverseRecOn with
    | nil =>
        rw [run_nil, show (opening s (publishes.map .publish)).store = s from rfl,
          stock_of_keeps hs (fun r hr => absurd hr List.not_mem_nil)]
        exact Nat.zero_le m
    | append_singleton vs t ih =>
        have hf' := hf.of_isPrefix hpre
        have hbefore := ih ((List.prefix_append vs [t]).trans hpre)
        by_cases hc : ((opening s (publishes.map .publish)).run vs).Commits t name
        · obtain ⟨before, last, during, hpaused, -⟩ := caught hs hm hf' hc
          obtain ⟨n, hlanded⟩ := exists_landed (opening s (publishes.map .publish))
            (before ++ [last]) name during
          have hstock := stock_landed hs hm (hpaused.split ▸ hf'.left) hlanded
          rw [← hpaused.split] at hstock
          have hroom : ¬m ≤ _ := fun hfull =>
            hno vs t name hpre ⟨hc, before, last, during, n, hpaused, hlanded, hfull⟩
          rw [(stock_run hs hm hf' name).1 hc]
          omega
        · rw [(stock_run hs hm hf' name).2 hc]
          exact hbefore

end

/-- **The ceiling is kept exactly as long as no commit outruns it**, in a list and in a table alike,
however the calls of any publishes interleave that are held to it. -/
theorem ceiling_kept_iff {publishes : List Publish} (hm : ∀ p ∈ publishes, p.config.maxVersions = m)
    {us : List Turn} (hf : Turns.Fair us) :
    (opening ({} : Memory) (publishes.map .publish)).Ceiling m us ∧
      (opening ({} : Rows) (publishes.map .publish)).Ceiling m us :=
  ⟨ceiling_run Memory.keeps_empty hm hf, ceiling_run Rows.keeps_empty hm hf⟩

/-- Publishes of one name, two of which are not to be the latest version. -/
def latecomers : List Publish := ["3.0.0", "1.0.0", "2.0.0"].map fun version =>
  { Race.publish version with config := { dailyQuota := -1, maxVersions := 2 } }

/-- The first one commits, then the other two read the versions, and then they commit. -/
def crowding : List Turn := Race.turns [0, 0, 1, 2, 1, 2]

theorem fair_crowding : Turns.Fair crowding := ⟨by decide, by decide⟩

theorem countP_crowding :
    (((opening ({} : Memory) (latecomers.map .publish)).run crowding).store.records.countP
      fun r => r.name = "a/b") = 3 := by
  decide +kernel

/-- Some commit must have outrun the ceiling of two. -/
theorem ceiling_kept_iff_crowding : ∃ vs t name, vs ++ [t] <+: crowding ∧
    (opening ({} : Memory) (latecomers.map .publish)).Outruns 2 vs t name := by
  have hm : ∀ p ∈ latecomers, p.config.maxVersions = 2 := by decide
  obtain ⟨hlist, -⟩ := ceiling_kept_iff hm fair_crowding
  by_contra hnone
  have hkept := hlist.kept_iff.2 (fun vs t name hpre hout => hnone ⟨vs, t, name, hpre, hout⟩)
    crowding List.prefix_rfl "a/b"
  rw [Memory.stock_eq, countP_crowding] at hkept
  omega

/-- **Three versions may be stored though two are the most.** -/
theorem exists_overfull : (∀ p ∈ latecomers, p.config.maxVersions = 2) ∧ Turns.Fair crowding ∧
    2 < (((opening ({} : Memory) (latecomers.map .publish)).run crowding).store.records.countP
      fun r => r.name = "a/b") := by
  refine ⟨by decide, fair_crowding, ?_⟩
  rw [countP_crowding]
  decide

end World

end Service

end ManifestRegistry
