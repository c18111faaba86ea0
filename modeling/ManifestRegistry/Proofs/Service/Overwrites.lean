/-
**What becomes of an edit.**

Besides adding versions, jobs put records in place of stored ones: an edit its edited copy, a publish
the demoted copy of the latest version.  A demotion carries the manifest and the bag that the publish
has read, be they those that are stored by then or not.  So what an edit has saved stays until the
next edit of the version, unless a publish that had read the version before demotes it afterwards.

Main definitions:

* `Record.SameContent` — two records have the same manifest and bag;
* `Service.Job.overwrite?`, `Service.World.Lands` — a record is put in place of a stored one;
* `Service.Job.Holds` — a publish holds a copy of a record;
* `Service.World.Held` — a copy is one that a job held in an earlier world.

Main results:

* `Service.Job.Move.mem_or_lands` — a stored record stays or another one lands in its place;
* `Service.World.kept_or_lost` — **what is saved is kept, or lost to a copy that was read before**.
-/

import ManifestRegistry.Proofs.Service.Soundness

set_option relaxedAutoImplicit false
set_option autoImplicit false

namespace ManifestRegistry

open Storage

/-- Two records have the same manifest and bag. -/
structure Record.SameContent (r s : Record) : Prop where
  manifest : r.manifest = s.manifest
  bag : r.bag = s.bag

namespace Record.SameContent

variable {r s t : Record}

theorem refl (r : Record) : SameContent r r := ⟨rfl, rfl⟩

theorem symm (h : SameContent r s) : SameContent s r := ⟨h.manifest.symm, h.bag.symm⟩

theorem trans (h : SameContent r s) (h' : SameContent s t) : SameContent r t :=
  ⟨h.manifest.trans h'.manifest, h.bag.trans h'.bag⟩

end Record.SameContent

/-- What differs between a demotion and the record it lands on is told by the content. -/
theorem Record.eq_demoted_iff {d r : Record} (himp : d.imprint = r.imprint)
    (hd : d.isLatest = false) : d = r.demoted d.updatedAt ↔ SameContent d r := by
  constructor
  · intro h
    rw [h]
    exact ⟨rfl, rfl⟩
  · rintro ⟨hm, hb⟩
    obtain ⟨m, ⟨id, published, updated, latest, release⟩, b, publisher⟩ := d
    obtain ⟨m', ⟨id', published', updated', latest', release'⟩, b', publisher'⟩ := r
    simp only [Record.imprint, Record.id, Record.publishedAt, Imprint.mk.injEq] at himp
    obtain ⟨-, -, rfl, rfl, rfl, rfl⟩ := himp
    obtain rfl : latest = false := hd
    obtain rfl : m = m' := hm
    obtain rfl : b = b' := hb
    rfl

namespace Service

namespace Job

/-- The record that a job is about to put in place of a stored version. -/
def overwrite? : Job → Option Record
  | .publish _ (.running (.commit _ plan)) => plan.demoted
  | .edit _ (.running (.save u)) => some u
  | _ => none

/-- A job has ended well. -/
def Succeeded : Job → Prop
  | .publish _ (.finished (.ok _)) => True
  | .edit _ (.finished (.ok _)) => True
  | _ => False

/-- A job is an edit. -/
def IsEdit : Job → Prop
  | .edit .. => True
  | .publish .. => False

/-- A publish holds a copy of a record: it has read it, or it is about to demote it. -/
def Holds (x : Record) : Job → Prop
  | .publish _ (.running (.lookup _ c)) => x ∈ c.records
  | .publish _ (.running (.commit _ plan)) => plan.demoted = some x
  | _ => False

theorem not_holds_of_opened {p : Publish} {progress : Progress Publish.Phase Change}
    (h : p.Opened progress) (x : Record) : ¬(publish p progress).Holds x := by
  cases h with
  | lookup left => exact List.not_mem_nil
  | _ => exact id

theorem not_succeeded_of_opened {p : Publish} {progress : Progress Publish.Phase Change}
    (h : p.Opened progress) : ¬(publish p progress).Succeeded := by
  cases h <;> exact id

theorem not_succeeded_of_opened_edit {e : Edit} {progress : Progress Edit.Phase Change}
    (h : Edit.Opened progress) : ¬(edit e progress).Succeeded := by
  cases h <;> exact id

namespace Move

variable {legible : Bag → Prop} {guarded : Prop} {moment : Moment} {rs rs' : List Record}
  {job job' : Job}

/-- **A stored record stays, or another record of its version lands in its place.** -/
theorem mem_or_lands (h : Move legible guarded moment rs job rs' job')
    (hd : Distinct (rs.map Record.imprint)) (hs : job.Sound (rs.map Record.imprint)) {r : Record}
    (hr : r ∈ rs) : r ∈ rs' ∨
      ∃ x, job.overwrite? = some x ∧ job'.Succeeded ∧ x.imprint = r.imprint ∧ x ∈ rs' := by
  obtain ⟨j, hj⟩ := List.mem_iff_getElem?.1 hr
  -- putting a record in one place leaves all others where they are
  have hset : ∀ {i : Nat} {x : Record}, Memory.place? rs x.id x.version = some i →
      x.imprint ∈ rs.map Record.imprint →
      r ∈ rs.set i x ∨ (x.imprint = r.imprint ∧ x ∈ rs.set i x) := by
    intro i x hi hx
    by_cases hij : i = j
    · subst hij
      exact .inr ⟨(hd.imprint_eq hi hj hx).symm,
        List.mem_set (List.getElem?_eq_some_iff.1 hj).1 _⟩
    · refine .inl (List.mem_iff_getElem?.2 ⟨j, ?_⟩)
      rw [List.getElem?_set_ne hij, hj]
  cases h with
  | commit p left plan hc =>
      obtain ⟨-, rs₁, hdem, hins⟩ := Memory.committed_eq_ok.1 hc
      obtain ⟨-, -, rfl⟩ := Memory.insert_eq_ok.1 hins
      cases hprev : plan.demoted with
      | none =>
          rw [hprev] at hdem
          obtain rfl : rs = rs₁ := Except.ok.inj hdem
          exact .inl (List.mem_append_left _ hr)
      | some d =>
          rw [hprev] at hdem
          obtain ⟨i, _, hi, -, -, rfl⟩ := Memory.demote_eq_ok.1 hdem
          rcases hset hi (hs.1.demotion d hprev).1 with hmem | ⟨he, hmem⟩
          · exact .inl (List.mem_append_left _ hmem)
          · exact .inr ⟨d, hprev, trivial, he, List.mem_append_left _ hmem⟩
  | save e u i hi =>
      obtain ⟨hid, hm, -⟩ := hs
      rcases hset (hid ▸ hi) hm with hmem | ⟨he, hmem⟩
      · exact .inl hmem
      · exact .inr ⟨u, rfl, trivial, he, hmem⟩
  | _ => exact .inl hr

/-- A record that lands is stored, and a demotion lands on a flagged version only. -/
theorem of_lands (h : Move legible guarded moment rs job rs' job')
    (hd : Distinct (rs.map Record.imprint)) (hs : job.Sound (rs.map Record.imprint)) {x : Record}
    (hx : job.overwrite? = some x) (hok : job'.Succeeded) :
    x.imprint ∈ rs.map Record.imprint ∧ x ∈ rs' ∧ (job.IsEdit ∨ (x.isLatest = false ∧
      ∃ r ∈ rs, r.imprint = x.imprint ∧ r.isLatest = true)) := by
  cases h with
  | rest =>
      rcases job with ⟨p, progress⟩ | ⟨e, progress⟩ <;> cases progress with
      | finished r => cases hx
      | running phase => exact hok.elim
  | «open» p phase h => exact (not_succeeded_of_opened h hok).elim
  | reopen e phase h => exact (not_succeeded_of_opened_edit h hok).elim
  | page | plan | fetch => cases hx
  | commit p left plan hc =>
      obtain ⟨-, rs₁, hdem, hins⟩ := Memory.committed_eq_ok.1 hc
      obtain ⟨-, -, rfl⟩ := Memory.insert_eq_ok.1 hins
      simp only [overwrite?] at hx
      rw [hx] at hdem
      obtain ⟨i, r, hi, hr, hflag, rfl⟩ := Memory.demote_eq_ok.1 hdem
      obtain ⟨hm, hunflagged, -⟩ := hs.1.demotion x hx
      refine ⟨hm, List.mem_append_left _ (List.mem_set (List.getElem?_eq_some_iff.1 hr).1 _),
        .inr ⟨hunflagged, r, List.mem_of_getElem? hr, hd.imprint_eq hi hr hm, hflag⟩⟩
  | save e u i hi =>
      obtain rfl : u = x := Option.some_inj.1 hx
      obtain ⟨r, hr, -⟩ := Memory.place?_eq_some hi
      exact ⟨hs.2.1, List.mem_set (List.getElem?_eq_some_iff.1 hr).1 _, .inl trivial⟩

/-- What a publish holds after its move it held before, or it has just read it; only a demotion makes
a difference. -/
theorem holds (h : Move legible guarded moment rs job rs' job') {x : Record}
    (hx : job'.Holds x) :
    (∃ y, job.Holds y ∧ y.imprint = x.imprint ∧ y.SameContent x) ∨
      ∃ y, (∃ r ∈ rs, Shows legible y r) ∧ y.imprint = x.imprint ∧ y.SameContent x := by
  cases h with
  | rest => exact .inl ⟨x, hx, rfl, .refl x⟩
  | «open» p phase h => exact (not_holds_of_opened h x hx).elim
  | page p left c items cursor h =>
      rcases List.mem_append.1 hx with hx | hx
      · exact .inl ⟨x, hx, rfl, .refl x⟩
      · obtain ⟨r, hr, hshow, -⟩ := h x hx
        exact .inr ⟨x, ⟨r, hr, hshow⟩, rfl, .refl x⟩
  | plan p left c items h existing hsub =>
      obtain ⟨l, hl, -, rfl, -⟩ := Publish.demotion_eq_some hx
      rcases List.mem_append.1 (hsub l hl) with hl | hl
      · exact .inl ⟨l, hl, rfl, ⟨rfl, rfl⟩⟩
      · obtain ⟨r, hr, hshow, -⟩ := h l hl
        exact .inr ⟨l, ⟨r, hr, hshow⟩, rfl, ⟨rfl, rfl⟩⟩
  | commit | reopen | fetch | save => exact hx.elim

end Move

end Job

namespace World

/-- At a turn a job puts a record in place of a stored one. -/
structure Lands {σ : Type} [Store σ] (w : World σ) (t : Turn) (job : Job) (x : Record) : Prop where
  turn : w.jobs[t.job]? = some job
  overwrite : job.overwrite? = some x
  succeeded : ∃ job', (w.turn t).jobs[t.job]? = some job' ∧ job'.Succeeded

/-- A job held a copy of a version that has the content of another one. -/
def Held {σ : Type} (w : World σ) (i : Nat) (x : Record) : Prop :=
  ∃ job y, w.jobs[i]? = some job ∧ job.Holds y ∧ y.imprint = x.imprint ∧ y.SameContent x

/-- No edit of the version of a record lands during a run. -/
def Unedited {σ : Type} [Store σ] (w : World σ) (ts : List Turn) (u : Record) : Prop :=
  ∀ us t, us ++ [t] <+: ts → ∀ job x, (w.run us).Lands t job x → job.IsEdit →
    x.isVersion u.id u.version = false

/-- Every copy of a version that a job holds has some content, or that job held it before. -/
def Copies {σ : Type} (w w₀ : World σ) (u : Record) : Prop :=
  ∀ i job x, w.jobs[i]? = some job → job.Holds x → x.imprint = u.imprint →
    x.SameContent u ∨ w₀.Held i x

/-- The rest of a run without an edit of a version is one. -/
theorem Unedited.tail {σ : Type} [Store σ] {w : World σ} {t : Turn} {ts : List Turn} {u : Record}
    (h : w.Unedited (t :: ts) u) : (w.turn t).Unedited ts u :=
  fun us v hpre job x hl => h (t :: us) v (by simpa using hpre) job x (by simpa using hl)

variable {σ : Type} [Store σ] [Ledger σ] {w w' w₀ : World σ} {t : Turn} {ts : List Turn}
  {rs rs' : List Record} {used : List Uuid} {r u : Record}

/-- A stored record stays, or another record of its version lands in its place. -/
theorem Sound.mem_or_lands (h : w.Sound rs used) (hm : w.Moves t rs rs' (w.turn t)) (hr : r ∈ rs) :
    r ∈ rs' ∨ ∃ job x, w.Lands t job x ∧ x.imprint = r.imprint ∧ x ∈ rs' := by
  generalize hw' : w.turn t = w' at hm
  cases hm with
  | nobody => exact .inl hr
  | @somebody job job' _ s hjob hm =>
      rcases hm.mem_or_lands h.distinct (h.jobs job (List.mem_of_getElem? hjob)) hr with hmem |
        ⟨x, hx, hok, he, hmem⟩
      · exact .inl hmem
      · refine .inr ⟨job, x, ⟨hjob, hx, job', ?_, hok⟩, he, hmem⟩
        rw [hw']
        exact List.getElem?_set_self (List.getElem?_eq_some_iff.1 hjob).1

/-- A record that lands is stored, and a demotion lands on a flagged version only. -/
theorem Sound.of_lands (h : w.Sound rs used) (hm : w.Moves t rs rs' (w.turn t)) {job : Job}
    {x : Record} (hl : w.Lands t job x) :
    x.imprint ∈ rs.map Record.imprint ∧ x ∈ rs' ∧ (job.IsEdit ∨ (x.isLatest = false ∧
      ∃ r ∈ rs, r.imprint = x.imprint ∧ r.isLatest = true)) := by
  obtain ⟨hjob, hx, job₁, hjob₁, hok⟩ := hl
  generalize hw' : w.turn t = w' at hm hjob₁
  cases hm with
  | nobody hnone =>
      rw [hjob] at hnone
      cases hnone
  | @somebody job₂ job' _ s hjob₂ hm =>
      obtain rfl : job₂ = job := Option.some_inj.1 (hjob₂.symm.trans hjob)
      rw [List.getElem?_set_self (List.getElem?_eq_some_iff.1 hjob).1] at hjob₁
      obtain rfl := Option.some_inj.1 hjob₁
      exact hm.of_lands h.distinct (h.jobs _ (List.mem_of_getElem? hjob)) hx hok

theorem isVersion_of_imprint {x y : Record} (h : x.imprint = y.imprint) :
    x.isVersion y.id y.version = true :=
  Record.isVersion_iff.2 ⟨congrArg Imprint.id h, congrArg Imprint.version h⟩

theorem Sound.imprint_of_isVersion (h : w.Sound rs used) {x : Record}
    (hx : x.imprint ∈ rs.map Record.imprint) (hr : r ∈ rs) (he : r.imprint = u.imprint)
    (hv : x.isVersion u.id u.version = true) : x.imprint = u.imprint := by
  obtain ⟨hid, hver⟩ := Record.isVersion_iff.1 hv
  obtain ⟨i, hi⟩ := List.mem_iff_getElem?.1 hx
  obtain ⟨j, hj⟩ := List.mem_iff_getElem?.1 (List.mem_map_of_mem (f := Record.imprint) hr)
  rw [he] at hj
  obtain rfl := h.distinct.eq_of_id_version hi hj hid hver
  exact Option.some_inj.1 (hi.symm.trans hj)

/-- What lands on a version that is not edited comes from a publish. -/
theorem Unedited.not_isEdit {σ : Type} [Store σ] {w : World σ} {job : Job} {d : Record}
    (hun : w.Unedited (t :: ts) u) (hl : w.Lands t job d) (he : d.imprint = u.imprint) :
    ¬job.IsEdit := by
  intro hedit
  have hno := hun [] t (by simp) job d hl hedit
  rw [isVersion_of_imprint he] at hno
  cases hno

/-- A version without the flag stays as it is until an edit of it lands. -/
theorem Sound.mem_run_of_not_isLatest (h : w.Sound rs used) (hr : r ∈ rs)
    (hflag : r.isLatest = false) (hf : Turns.Fair ts) (hnew : ∀ t ∈ ts, t.moment.freshId ∉ used)
    (hun : w.Unedited ts r) : ∃ rs' used', (w.run ts).Sound rs' used' ∧ r ∈ rs' := by
  -- a commit demotes flagged records only, so nothing but an edit can land on this one
  induction ts generalizing w rs used with
  | nil => exact ⟨rs, used, h, hr⟩
  | cons t ts ih =>
      obtain ⟨rs₁, hm, h₁⟩ :=
        h.turn (hf.readings t List.mem_cons_self) (hnew t List.mem_cons_self)
      obtain ⟨hf', hnew'⟩ := hf.tail hnew
      rcases h.mem_or_lands hm hr with hmem | ⟨job, x, hl, he, -⟩
      · exact ih h₁ hmem hf' hnew' hun.tail
      · obtain ⟨-, -, hedit | ⟨-, s, hs, hse, hsf⟩⟩ := h.of_lands hm hl
        · exact absurd hedit (hun.not_isEdit hl he)
        · obtain rfl : s = r := h.distinct.eq_of_imprint hs hr (hse.trans he)
          rw [hflag] at hsf
          cases hsf

/-- As long as a version has the content saved, whoever reads it gets that content. -/
theorem Copies.of_moves (h : w.Copies w₀ u) (hm : w.Moves t rs rs' w')
    (hs : w.Sound rs used) (hr : r ∈ rs) (himp : r.imprint = u.imprint) (hsame : r.SameContent u)
    (hleg : Ledger.Legible σ u.bag) : w'.Copies w₀ u := by
  cases hm with
  | nobody => exact h
  | @somebody job job' _ s hjob hm =>
      intro i job₁ x hjob₁ hx hxu
      rw [List.getElem?_set] at hjob₁
      split at hjob₁
      · rename_i hi
        subst hi
        split at hjob₁
        · obtain rfl := Option.some_inj.1 hjob₁
          rcases hm.holds hx with ⟨y, hy, hye, hyx⟩ | ⟨y, ⟨s, hsm, hshow⟩, hye, hyx⟩
          · rcases h _ job y hjob hy (hye.trans hxu) with hyu | ⟨job₀, z, hjob₀, hz, hze, hzy⟩
            · exact .inl (hyx.symm.trans hyu)
            · exact .inr ⟨job₀, z, hjob₀, hz, hze.trans hye, hzy.trans hyx⟩
          · have hsr : s = r := hs.distinct.eq_of_imprint hsm hr
              (hshow.imprint.symm.trans (hye.trans (hxu.trans himp.symm)))
            obtain rfl : y = s := hshow.eq (by rw [hsr, hsame.bag]; exact hleg)
            exact .inl (hyx.symm.trans (hsr ▸ hsame))
        · cases hjob₁
      · exact h i job₁ x hjob₁ hx hxu

/-- What lands at a turn while a version has the content saved: something else than that content on
that version, or nothing of the kind, and then the version still has it. -/
theorem Sound.lost_or_kept (h : w.Sound rs used) (hm : w.Moves t rs rs' (w.turn t)) (hr : r ∈ rs)
    (himp : r.imprint = u.imprint) (hsame : r.SameContent u) :
    (∃ job d, w.Lands t job d ∧ d.imprint = u.imprint ∧ ¬d.SameContent u) ∨
      ((∀ job d, w.Lands t job d → d.isVersion u.id u.version = true → d.SameContent u) ∧
        ∃ r₁ ∈ rs', r₁.imprint = u.imprint ∧ r₁.SameContent u) := by
  by_cases hlost : ∃ job d, w.Lands t job d ∧ d.imprint = u.imprint ∧ ¬d.SameContent u
  · exact .inl hlost
  · have hall : ∀ job d, w.Lands t job d → d.imprint = u.imprint → d.SameContent u :=
      fun job d hl he => Classical.not_not.1 fun hne => hlost ⟨job, d, hl, he, hne⟩
    refine .inr ⟨fun job d hl hv => ?_, ?_⟩
    · exact hall job d hl (h.imprint_of_isVersion (h.of_lands hm hl).1 hr himp hv)
    · rcases h.mem_or_lands hm hr with hmem | ⟨job, x, hl, he, hmem⟩
      · exact ⟨r, hmem, himp, hsame⟩
      · exact ⟨x, hmem, he.trans himp, hall job x hl (he.trans himp)⟩

/-- A publish that puts a record in place of a stored one holds it. -/
theorem Lands.holds {σ : Type} [Store σ] {w : World σ} {t : Turn} {job : Job} {d : Record}
    (h : w.Lands t job d) (hedit : ¬job.IsEdit) : job.Holds d := by
  have hx := h.overwrite
  unfold Job.overwrite? at hx
  split at hx
  · exact hx
  · exact absurd trivial hedit
  · cases hx

/-- What a publish lands on a version has no flag, so it is still there when no edit has followed. -/
theorem Sound.mem_run_of_lands (h : w.Sound rs used) (hm : w.Moves t rs rs' (w.turn t))
    (h' : (w.turn t).Sound rs' (t.moment.freshId :: used)) {job : Job} {d : Record}
    (hl : w.Lands t job d) (he : d.imprint = u.imprint) (hf : Turns.Fair (t :: ts))
    (hnew : ∀ v ∈ t :: ts, v.moment.freshId ∉ used) (hun : w.Unedited (t :: ts) u) :
    ∃ rs'' used', (w.run (t :: ts)).Sound rs'' used' ∧ d ∈ rs'' := by
  obtain ⟨-, hd, hflag⟩ := h.of_lands hm hl
  obtain ⟨hflag, -⟩ := hflag.resolve_left (hun.not_isEdit hl he)
  have hund : (w.turn t).Unedited ts d := by
    intro us v hpre job x hx hxe
    have hno := hun.tail us v hpre job x hx hxe
    rwa [show d.id = u.id from congrArg Imprint.id he,
      show d.version = u.version from congrArg Imprint.version he]
  obtain ⟨hf', hnew'⟩ := hf.tail hnew
  exact h'.mem_run_of_not_isLatest hd hflag hf' hnew' hund

/-- **What is saved is kept, or lost to a copy that was read before**: until the next edit of the
version, either every demotion that lands on it carries the content saved, and that is stored; or one
lands that does not, and what it carries is stored.  In the second case the publish held its copy
before, if the bag saved is legible. -/
theorem kept_or_lost (h : w.Sound rs used) (hr : r ∈ rs) (himp : r.imprint = u.imprint)
    (hsame : r.SameContent u) (hcopies : Ledger.Legible σ u.bag → w.Copies w₀ u)
    (hf : Turns.Fair ts) (hnew : ∀ t ∈ ts, t.moment.freshId ∉ used) (hun : w.Unedited ts u) :
    (∃ rs' used' r', (w.run ts).Sound rs' used' ∧ r' ∈ rs' ∧ r'.imprint = u.imprint ∧
      r'.SameContent u ∧ ∀ us t, us ++ [t] <+: ts → ∀ job d, (w.run us).Lands t job d →
        d.isVersion u.id u.version = true → d.SameContent u) ∨
    (∃ us t job d rs' used', us ++ [t] <+: ts ∧ (w.run us).Lands t job d ∧
      d.imprint = u.imprint ∧ ¬d.SameContent u ∧ (w.run ts).Sound rs' used' ∧ d ∈ rs' ∧
      (Ledger.Legible σ u.bag → w₀.Held t.job d)) := by
  -- as long as nothing else lands, all copies taken of the version have the content saved
  induction ts generalizing w rs used r with
  | nil =>
      refine .inl ⟨rs, used, r, h, hr, himp, hsame, fun us t hpre => ?_⟩
      simp at hpre
  | cons t ts ih =>
      obtain ⟨rs₁, hm, h₁⟩ :=
        h.turn (hf.readings t List.mem_cons_self) (hnew t List.mem_cons_self)
      obtain ⟨hf', hnew'⟩ := hf.tail hnew
      rcases h.lost_or_kept hm hr himp hsame with ⟨job, d, hl, he, hne⟩ | ⟨hall, r₁, hr₁, himp₁,
        hsame₁⟩
      · -- what lands has no flag, so nothing lands on it any more
        obtain ⟨rs', used', h', hd'⟩ := h.mem_run_of_lands hm h₁ hl he hf hnew hun
        refine .inr ⟨[], t, job, d, rs', used', by simp, hl, he, hne, h', hd', fun hleg => ?_⟩
        have hholds := hl.holds (hun.not_isEdit hl he)
        exact (hcopies hleg t.job job d hl.turn hholds he).resolve_left hne
      · have hcopies' : Ledger.Legible σ u.bag → (w.turn t).Copies w₀ u := fun hleg =>
          (hcopies hleg).of_moves hm h hr himp hsame hleg
        rcases ih h₁ hr₁ himp₁ hsame₁ hcopies' hf' hnew' hun.tail with
          ⟨rs', used', r', h', hr', himp', hsame', hland⟩ |
          ⟨us, v, job, d, rs', used', hpre, hl, he, hne, h', hd', hheld⟩
        · refine .inl ⟨rs', used', r', h', hr', himp', hsame', fun us v hpre => ?_⟩
          cases us with
          | nil =>
              obtain rfl : v = t := by simpa using hpre
              exact hall
          | cons s us =>
              obtain ⟨rfl, htail⟩ : s = t ∧ us ++ [v] <+: ts := by simpa using hpre
              exact hland us v htail
        · exact .inr ⟨t :: us, v, job, d, rs', used', by simpa using hpre, hl, he, hne, h', hd',
            hheld⟩

end World

end Service

end ManifestRegistry
