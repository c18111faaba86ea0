/-
**Whose versions are stored, and what columns say of documents.**

A table keeps columns beside each document.  A commit writes all of them, but a demotion and an update write
some, together with a document made of a copy that others may have outdated by then.  Whatever the order of
calls, the copy is one of the version that the row is, and the columns left alone say what the new document
says of them.  Only the publisher is not in the document: it is that of the publish which stored the version,
as nobody writes the column again and no other publish comes to that version.

Main definitions:

* `Service.World.Published` — a publish has come to a record;
* `Service.World.Signed` — **every stored version is one that a publish has come to**, under its publisher;
* `Storage.Row.Tells` — what the columns of a row say is what a record says;
* `Service.World.Accounted` — a row whose document is read and whose columns are accounted for.

Main results:

* `Service.World.Signed.run` — a run keeps versions signed;
* `Service.World.rows_accounted` — **all rows are accounted for after every call**.
-/

import ManifestRegistry.Proofs.Service.Carrying
import ManifestRegistry.Proofs.Service.Soundness
import ManifestRegistry.Proofs.Storage.Rendering

set_option relaxedAutoImplicit false
set_option autoImplicit false

namespace ManifestRegistry

open Storage

namespace Service

/-! ### Publishes and what they come to -/

namespace Job

/-- The publish that a job is and the record that it has come to, if it has come to one. -/
def created? : Job → Option (Publish × Record)
  | .publish p (.finished (.ok (record, _))) => some (p, record)
  | _ => none

/-- The version that a publish is about to commit is its publisher's; the one it has come to is, too, and is
stored. -/
def Signed (ms : List Imprint) : Job → Prop
  | .publish p (.running (.commit _ plan)) => plan.record.publishedBy = some p.publisher.subject
  | .publish p (.finished (.ok (record, _))) =>
      record.publishedBy = some p.publisher.subject ∧ record.imprint ∈ ms
  | _ => True

variable {ms ms' : List Imprint} {job job' : Job} {p : Publish} {record : Record}

theorem Signed.mono (h : job.Signed ms) (hsub : ∀ m ∈ ms, m ∈ ms') : job.Signed ms' := by
  unfold Signed at h ⊢
  split
  · exact h
  · exact ⟨h.1, hsub _ h.2⟩
  · trivial

/-- What a job has come to is its publisher's and stored. -/
theorem Signed.created (h : job.Signed ms) (hc : job.created? = some (p, record)) :
    record.publishedBy = some p.publisher.subject ∧ record.imprint ∈ ms := by
  unfold created? at hc
  split at hc
  · obtain ⟨rfl, rfl⟩ := Prod.mk.inj (Option.some_inj.1 hc)
    exact h
  · cases hc

theorem signed_of_opened {progress : Progress Publish.Phase Change} (h : p.Opened progress) :
    (publish p progress).Signed ms := by
  cases h <;> trivial

theorem signed_edit (e : Edit) (progress : Progress Edit.Phase Change) : (edit e progress).Signed ms :=
  trivial

theorem signed_job (request : Request) : request.job.Signed ms := by
  cases request with
  | publish p => exact signed_of_opened Publish.opened_start
  | edit e => exact signed_edit e _

namespace Move

variable {legible : Bag → Prop} {guarded : Prop} {moment : Moment} {rs rs' : List Record}

/-- **What a publish plans and what it comes to is its publisher's.** -/
theorem signed (h : Move legible guarded moment rs job rs' job') (hd : Distinct (rs.map Record.imprint))
    (hs : job.Sound (rs.map Record.imprint)) (hsigned : job.Signed (rs.map Record.imprint)) :
    job'.Signed (rs'.map Record.imprint) := by
  cases h with
  | rest => exact hsigned
  | «open» p phase h => exact signed_of_opened h
  | plan p left c items h existing hsub => rfl
  | commit p left plan hc =>
      refine ⟨hsigned, ?_⟩
      rw [hd.map_imprint_committed (fun d he => (hs.1.demotion d he).1) hc]
      exact List.mem_append_right _ List.mem_cons_self
  | page | reopen | fetch | save => trivial

theorem eq_of_created (h : Move legible guarded moment rs job rs' job')
    (hc : job.created? = some (p, record)) : job' = job := by
  cases h with
  | rest => rfl
  | _ => cases hc

theorem created (h : Move legible guarded moment rs job rs' job') (hd : Distinct (rs.map Record.imprint))
    (hs : job.Sound (rs.map Record.imprint)) {m : Imprint} (hm : m ∈ rs'.map Record.imprint) :
    m ∈ rs.map Record.imprint ∨ ∃ p record, job'.created? = some (p, record) ∧ record.imprint = m := by
  cases h with
  | commit p left plan hc =>
      rw [hd.map_imprint_committed (fun d he => (hs.1.demotion d he).1) hc] at hm
      rcases List.mem_append.1 hm with hm | hm
      · exact .inl hm
      · exact .inr ⟨p, plan.record, rfl, (List.mem_singleton.1 hm).symm⟩
  | save e u i hi =>
      obtain ⟨hid, hmem, -⟩ := hs
      rw [map_imprint_set fun r hr => hd.imprint_eq (hid ▸ hi) hr hmem] at hm
      exact .inl hm
  | _ => exact .inl hm

end Move

end Job

/-! ### Stored versions and their publishers -/

namespace World

variable {σ : Type}

/-- A publish has come to a record. -/
def Published (w : World σ) (p : Publish) (record : Record) : Prop :=
  ∃ job ∈ w.jobs, job.created? = some (p, record)

/-- Every stored version is one that a publish has come to, and what publishes plan and have come to is
their publishers'. -/
structure Signed (w : World σ) (ms : List Imprint) : Prop where
  published : ∀ m ∈ ms, ∃ p record, w.Published p record ∧ record.imprint = m
  jobs : ∀ job ∈ w.jobs, job.Signed ms

theorem signed_opening (s : σ) (requests : List Request) : (opening s requests).Signed [] where
  published m hm := absurd hm List.not_mem_nil
  jobs job hjob := by
    obtain ⟨request, -, rfl⟩ := List.mem_map.1 hjob
    exact Job.signed_job request

variable [Store σ] [Ledger σ] {w w' : World σ} {t : Turn} {ts : List Turn} {rs rs' : List Record}
  {used : List Uuid}

/-- **A call keeps versions signed.** -/
theorem Signed.of_moves (h : w.Signed (rs.map Record.imprint)) (hs : w.Sound rs used)
    (hm : w.Moves t rs rs' w') : w'.Signed (rs'.map Record.imprint) := by
  cases hm with
  | nobody => exact h
  | @somebody job job' _ s hjob hm =>
      have hmem := List.mem_of_getElem? hjob
      have hsound := hs.jobs job hmem
      have hlt := (List.getElem?_eq_some_iff.1 hjob).1
      constructor
      · intro m hmm
        rcases hm.created hs.distinct hsound hmm with hold | ⟨p, record, hc, himp⟩
        · -- whoever came to a version before is still there
          obtain ⟨p, record, ⟨other, hother, hc⟩, himp⟩ := h.published m hold
          obtain ⟨j, hj⟩ := List.mem_iff_getElem?.1 hother
          by_cases hself : t.job = j
          · subst hself
            obtain rfl : job = other := Option.some_inj.1 (hjob.symm.trans hj)
            obtain rfl := hm.eq_of_created hc
            exact ⟨p, record, ⟨job', List.mem_set hlt job', hc⟩, himp⟩
          · exact ⟨p, record, ⟨other, List.mem_of_getElem? ((List.getElem?_set_ne hself).trans hj), hc⟩,
              himp⟩
        · exact ⟨p, record, ⟨job', List.mem_set hlt job', hc⟩, himp⟩
      · intro job₁ hjob₁
        rcases List.mem_or_eq_of_mem_set hjob₁ with hold | rfl
        · exact (h.jobs job₁ hold).mono fun m => hm.imprint_mem hs.distinct hsound
        · exact hm.signed hs.distinct hsound (h.jobs job hmem)

/-- A run keeps versions signed. -/
theorem Signed.run (h : w.Signed (rs.map Record.imprint)) (hs : w.Sound rs used) (hf : Turns.Fair ts)
    (hnew : ∀ t ∈ ts, t.moment.freshId ∉ used) :
    ∃ rs' used', (w.run ts).Signed (rs'.map Record.imprint) ∧ (w.run ts).Sound rs' used' := by
  induction ts generalizing w rs used with
  | nil => exact ⟨rs, used, h, hs⟩
  | cons t ts ih =>
      obtain ⟨rs₁, hm, hs₁⟩ := hs.turn (hf.readings t List.mem_cons_self) (hnew t List.mem_cons_self)
      obtain ⟨hf', hnew'⟩ := hf.tail hnew
      exact ih (h.of_moves hs hm) hs₁ hf' hnew'

theorem Signed.publishedBy (h : w.Signed (rs.map Record.imprint)) (hs : w.Sound rs used) {r : Record}
    (hr : r ∈ rs) {p : Publish} {record : Record} (hp : w.Published p record) (hname : record.name = r.name)
    (hversion : record.version = r.version) : r.publishedBy = some p.publisher.subject := by
  obtain ⟨job, hjob, hc⟩ := hp
  obtain ⟨hsubject, hmem⟩ := (h.jobs job hjob).created hc
  obtain ⟨i, hi⟩ := List.mem_iff_getElem?.1 hmem
  obtain ⟨j, hj⟩ := List.mem_iff_getElem?.1 (List.mem_map_of_mem hr)
  obtain rfl := hs.distinct.versions hi hj hname hversion
  have himp : record.imprint = r.imprint := Option.some_inj.1 (hi.symm.trans hj)
  rw [← hsubject]
  exact (congrArg Imprint.publishedBy himp).symm

end World

end Service

/-! ### Rows and their documents -/

/-- What the columns of a row say is what a record says. -/
structure Storage.Row.Tells (row : Row) (x : Record) : Prop where
  id : row.id = x.id
  name : row.name = x.name
  version : row.version = x.version
  isLatest : row.isLatest = x.isLatest
  publishedAt : row.publishedAt = x.publishedAt.stamp
  updatedAt : row.updatedAt = x.updatedAt.stamp

/-- The columns of the row of a record say what is read of its document. -/
theorem Storage.Row.tells_ofRecord {r x : Record} (h : r.IsDated)
    (hx : Shape.decodeText Record.shape (ofRecord r).document = .ok x) : (ofRecord r).Tells x := by
  have hread := Record.decodeText_text h
  rw [show Shape.decodeText Record.shape r.text = .ok x from hx] at hread
  cases hbag : r.bag.reread with
  | error fault =>
      rw [hbag] at hread
      cases hread
  | ok bag =>
      rw [hbag] at hread
      obtain rfl := Except.ok.inj hread
      exact ⟨rfl, rfl, rfl, rfl, rfl, rfl⟩

namespace Service.World

/-- A row of the table at work whose document is read and says what the columns say, and whose publisher is
the one whose publish has come to the version. -/
structure Accounted (w : World Rows) (row : Row) : Prop where
  document : ∃ x, Shape.decodeText Record.shape row.document = .ok x ∧ row.Tells x
  author : ∃ p record, w.Published p record ∧ record.id = row.id ∧ record.name = row.name ∧
    record.version = row.version
  publishedBy : ∀ p record, w.Published p record → record.name = row.name →
    record.version = row.version → row.publishedBy = some p.publisher.subject

/-- **All rows of a table are accounted for after every call** of any publishes and edits, if their bags can
be read back. -/
theorem rows_accounted (requests : List Request) {ts : List Turn} (hf : Turns.Fair ts)
    (hbags : ∀ request ∈ requests, request.bag.Readable) :
    ∀ row ∈ ((opening ({} : Rows) requests).run ts).store.rows,
      ((opening ({} : Rows) requests).run ts).Accounted row := by
  obtain ⟨rs, used, hsigned, hsound⟩ := (signed_opening ({} : Rows) requests).run
    (sound_opening requests Rows.keeps_empty) hf fun _ _ => List.not_mem_nil
  have hbears : Cabinet.Bears Restorable ((opening ({} : Rows) requests).run ts).store := by
    refine bears_run durable_restorable ⟨rfl, fun row hrow => absurd hrow List.not_mem_nil⟩ ?_ ?_
    · intro job hjob
      obtain ⟨request, -, rfl⟩ := List.mem_map.1 hjob
      exact Job.carries_job request
    · intro t ht job hjob
      obtain ⟨request, hrequest, rfl⟩ := List.mem_map.1 hjob
      exact makes_restorable (hf.readings t ht) (hbags request hrequest)
  intro row hrow
  have hrestorable := hbears.2 row hrow
  rw [hsound.keeps.2] at hrow
  obtain ⟨r, hr, rfl⟩ := List.mem_map.1 hrow
  refine ⟨?_, ?_, fun p record hp hname hversion => hsigned.publishedBy hsound hr hp hname hversion⟩
  · obtain ⟨r', hr', hdoc⟩ := hrestorable
    obtain ⟨bag, hread, -⟩ := hr'.readable.reread
    have hdecode := Record.decodeText_text hr'.dated
    rw [hread, ← hdoc] at hdecode
    exact ⟨_, hdecode, Row.tells_ofRecord (hsound.dated r hr) hdecode⟩
  · obtain ⟨p, record, hp, himp⟩ := hsigned.published r.imprint (List.mem_map_of_mem hr)
    exact ⟨p, record, hp, congrArg Imprint.id himp, congrArg Imprint.name himp,
      congrArg Imprint.version himp⟩

/-! ### A demotion over an edit -/

/-- A publish of the next version by someone else. -/
def laterPublish : Publish := { Race.publish "2.0.0" with publisher := { subject := "t" } }

/-- Two publishers' versions of one server and an edit of the first version. -/
def overlapping : List Request :=
  [.publish (Race.publish "1.0.0"), .edit Race.edit, .publish laterPublish]

/-- So many seconds after the epoch. -/
def second (n : Nat) : Instant := (Instant.ofParts? n 0).getD .epoch

/-- Turns of the jobs with these numbers, one each second; each is offered its number in the row as an
identity. -/
def strides (jobs : List Nat) : List Turn :=
  jobs.zipIdx.map fun (job, n) => ⟨job, ⟨second n, ⟨n⟩⟩⟩

/-- What the first publish stores. -/
def earlier : Record where
  manifest := Race.manifest "1.0.0" ""
  registration := .new ⟨0⟩ .epoch true
  publishedBy := some "s"

/-- What the other publish stores. -/
def later : Record where
  manifest := Race.manifest "2.0.0" ""
  registration := .new ⟨0⟩ (second 2) true
  publishedBy := some "t"

theorem turn_lookup (p : Publish) (left : Nat) (c : Collect) (moment : Moment) (t : Rows) :
    Job.turn moment t (.publish p (.running (.lookup left c))) =
      (.publish p (p.receive (.lookup left c) moment (t.list c.filter c.cursor c.pageSize)), t) :=
  rfl

theorem turn_fetch (e : Edit) (moment : Moment) (t : Rows) :
    Job.turn moment t (.edit e (.running .fetch)) =
      (.edit e (e.receive .fetch moment (t.getVersion e.id e.manifest.version)), t) :=
  rfl

/-- The jobs when the first publish is done and the other two have read what it has stored. -/
def overlappingJobs : List Job :=
  [.publish (Race.publish "1.0.0") (.finished (.ok (earlier, (Race.publish "1.0.0").events earlier none))),
    .edit Race.edit (.running (.save (Race.edit.edited (second 3) earlier))),
    .publish laterPublish (.running (.commit 3 ⟨later, some (earlier.demoted (second 2))⟩))]

theorem renders_earlier : Rows.Renders ⟨[Row.ofRecord earlier], false⟩ [earlier] := by
  have hdated : earlier.IsDated := Registration.isDated_new (by decide)
  have hbag : earlier.bag.Lossless := rfl
  exact (Rows.intact_of_lossless (List.forall_mem_singleton.2 hdated)
    (List.forall_mem_singleton.2 hbag)).renders

theorem turn_laterPublish : Job.turn ⟨second 2, ⟨2⟩⟩ (⟨[Row.ofRecord earlier], false⟩ : Rows)
    (.publish laterPublish laterPublish.start) =
      (.publish laterPublish (.running (.commit 3 ⟨later, some (earlier.demoted (second 2))⟩)),
        ⟨[Row.ofRecord earlier], false⟩) := by
  have hstart : laterPublish.start = .running (.lookup 3 (Publish.lookup laterPublish.config "a/b")) := rfl
  have hpicked : Rows.picked [earlier] (Publish.lookup laterPublish.config "a/b").filter = [(1, earlier)] :=
    rfl
  rw [hstart, turn_lookup, renders_earlier.list, hpicked]
  rfl

theorem turn_raceEdit : Job.turn ⟨second 3, ⟨3⟩⟩ (⟨[Row.ofRecord earlier], false⟩ : Rows)
    (.edit Race.edit Race.edit.start) =
      (.edit Race.edit (.running (.save (Race.edit.edited (second 3) earlier))),
        ⟨[Row.ofRecord earlier], false⟩) := by
  have hstart : Race.edit.start = .running .fetch := rfl
  rw [hstart, turn_fetch, renders_earlier.getVersion]
  rfl

theorem run_overlapping : (opening ({} : Rows) overlapping).run (strides [0, 0, 2, 1]) =
    ⟨⟨[Row.ofRecord earlier], false⟩, overlappingJobs⟩ := by
  have hstored : (opening ({} : Rows) overlapping).run (strides [0, 0]) = ⟨⟨[Row.ofRecord earlier], false⟩,
      [overlappingJobs[0], .edit Race.edit Race.edit.start, .publish laterPublish laterPublish.start]⟩ := rfl
  have hturns : strides [0, 0, 2, 1] =
      strides [0, 0] ++ [⟨2, ⟨second 2, ⟨2⟩⟩⟩, ⟨1, ⟨second 3, ⟨3⟩⟩⟩] := rfl
  rw [hturns, run_append, hstored, run_cons, turn_of_some rfl, turn_laterPublish, run_cons, turn_of_some rfl,
    turn_raceEdit]
  rfl

/-- An edit is saved between the reading and the commit of a publish that demotes what it has edited: the
rows are accounted for after the one and after the other. -/
theorem rows_accounted_overlapping :
    Turns.Fair (strides [0, 0, 2, 1, 1, 2]) ∧ (∀ request ∈ overlapping, request.bag.Readable) ∧
    ((opening ({} : Rows) overlapping).run (strides [0, 0, 2, 1, 1])).store.rows =
      [Row.ofRecord (Race.edit.edited (second 3) earlier)] ∧
    ((opening ({} : Rows) overlapping).run (strides [0, 0, 2, 1, 1, 2])).store.rows =
      [Row.ofRecord (earlier.demoted (second 2)), Row.ofRecord later] ∧
    (∀ row ∈ ((opening ({} : Rows) overlapping).run (strides [0, 0, 2, 1, 1])).store.rows,
      ((opening ({} : Rows) overlapping).run (strides [0, 0, 2, 1, 1])).Accounted row) ∧
    ∀ row ∈ ((opening ({} : Rows) overlapping).run (strides [0, 0, 2, 1, 1, 2])).store.rows,
      ((opening ({} : Rows) overlapping).run (strides [0, 0, 2, 1, 1, 2])).Accounted row := by
  have hf : Turns.Fair (strides [0, 0, 2, 1, 1, 2]) := ⟨by decide, by decide⟩
  have hempty : Bag.Readable [] := Bag.Lossless.readable rfl
  have hbags : ∀ request ∈ overlapping, request.bag.Readable :=
    List.forall_mem_cons.2 ⟨hempty, List.forall_mem_cons.2 ⟨hempty, List.forall_mem_singleton.2 hempty⟩⟩
  have hsave : strides [0, 0, 2, 1, 1] = strides [0, 0, 2, 1] ++ [⟨1, ⟨second 4, ⟨4⟩⟩⟩] := rfl
  have hcommit : strides [0, 0, 2, 1, 1, 2] = strides [0, 0, 2, 1, 1] ++ [⟨2, ⟨second 5, ⟨5⟩⟩⟩] := rfl
  refine ⟨hf, hbags, ?_, ?_, rows_accounted overlapping (hf.of_isPrefix ⟨_, hcommit.symm⟩) hbags,
    rows_accounted overlapping hf hbags⟩
  · rw [hsave, run_append, run_overlapping]
    rfl
  · rw [hcommit, hsave, run_append, run_append, run_overlapping]
    rfl

end Service.World

end ManifestRegistry
