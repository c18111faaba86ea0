/-
**What is stored can be told from what visitors were answered.**

Who publishes or edits is answered with the record that was stored, as it was stored.  Whoever keeps these
answers therefore knows all records: a version that was published stands behind all others, and has taken the
flag of its name if it is flagged; a version that was edited stands in place of what it was before.  A store
may read its own records wrongly, and what it has read so it may write; as long as it reads them as they
are, it keeps what it has answered.

Main definitions:

* `Storage.withVersion`, `Storage.withEdit` — records after a publish and after an edit;
* `Registry.Entry.write`, `Registry.written` — **the records that answers tell of**.

Main results:

* `Storage.withVersion_of_committed`, `Storage.withEdit_of_set` — what the calls of a store do to records;
* `Registry.entry_writes` — **a visit leaves the records that its answer tells of**.
-/

import ManifestRegistry.Proofs.Registry.Chronicle

set_option relaxedAutoImplicit false
set_option autoImplicit false

namespace ManifestRegistry

open Service Storage

namespace Storage

variable {rs rs' : List Record}

/-- The records with a version behind them that takes over the flag of its name if it is flagged. -/
def withVersion (rs : List Record) (record : Record) : List Record :=
  (rs.map fun r =>
    if record.isLatest = true ∧ r.name = record.name ∧ r.isLatest = true then
      r.demoted record.publishedAt
    else r) ++ [record]

/-- The records with a version in place of what it was before. -/
def withEdit (rs : List Record) (record : Record) : List Record :=
  rs.map fun r => if r.isVersion record.id record.version = true then record else r

/-- **A commit of a version and a stored version demoted puts the one behind the others and takes the flag
of the other.** -/
theorem withVersion_of_committed (hd : Distinct (rs.map Record.imprint)) {record : Record}
    {previous : Option Record} (hp : ∀ d, previous = some d → record.isLatest = true ∧
      ∃ l ∈ rs, l.name = record.name ∧ l.isLatest = true ∧ d = l.demoted record.publishedAt)
    (hc : Memory.committed rs record previous = .ok rs') : rs' = withVersion rs record := by
  obtain ⟨-, rs₁, hdem, hins⟩ := Memory.committed_eq_ok.1 hc
  obtain ⟨-, hflag, rfl⟩ := Memory.insert_eq_ok.1 hins
  refine congrArg (· ++ [record]) ?_
  cases previous with
  | none =>
      obtain rfl : rs = rs₁ := Except.ok.inj hdem
      refine ((List.map_congr_left fun r hr => ?_).trans (List.map_id rs)).symm
      -- a flagged version of the name would have stood in the way
      rw [if_neg]
      · rfl
      · rintro ⟨hlatest, hname, hl⟩
        rw [hflag hlatest r hr hname] at hl
        cases hl
  | some d =>
      obtain ⟨hlatest, l, hl, hname, hlf, rfl⟩ := hp d rfl
      obtain ⟨i, s, hplace, hs, -, rfl⟩ := Memory.demote_eq_ok.1 hdem
      have hv : l.isVersion l.id l.version = true := Record.isVersion_iff.2 ⟨rfl, rfl⟩
      obtain ⟨j, hj, hstored⟩ := hd.exists_place hl hv
      obtain rfl : i = j := Option.some_inj.1 (hplace.symm.trans hj)
      refine set_eq_map
        (fun r => record.isLatest = true ∧ r.name = record.name ∧ r.isLatest = true)
        (fun r => r.demoted record.publishedAt) hstored ⟨hlatest, hname, hlf⟩ ?_
      rintro k r hk ⟨-, hrn, hrf⟩
      refine Classical.byContradiction fun hne => ?_
      have hmem : r ∈ rs.set i (l.demoted record.publishedAt) := by
        refine List.mem_iff_getElem?.2 ⟨k, ?_⟩
        rw [List.getElem?_set_ne (Ne.symm hne), hk]
      rw [hflag hlatest r hmem hrn] at hrf
      cases hrf

/-- A version that is put in place of itself changes this place only. -/
theorem withEdit_of_set (hd : Distinct (rs.map Record.imprint)) {record r : Record} {k : Nat}
    (hk : rs[k]? = some r) (hv : r.isVersion record.id record.version = true) :
    rs.set k record = withEdit rs record := by
  obtain ⟨j, hplace, hj⟩ := hd.exists_place (List.mem_of_getElem? hk) hv
  obtain rfl := hd.eq_place hplace hk hv
  refine set_eq_map (fun s => s.isVersion record.id record.version = true) (fun _ => record) hj hv ?_
  intro i s hi hs
  exact hd.eq_place hplace hi hs

theorem bag_of_mem_withVersion {record x : Record} (h : x ∈ withVersion rs record) :
    (∃ r ∈ rs, x.bag = r.bag) ∨ x = record := by
  rcases List.mem_append.1 h with h | h
  · obtain ⟨r, hr, rfl⟩ := List.mem_map.1 h
    refine .inl ⟨r, hr, ?_⟩
    split <;> rfl
  · exact .inr (List.mem_singleton.1 h)

theorem bag_of_mem_withEdit {record x : Record} (h : x ∈ withEdit rs record) :
    (∃ r ∈ rs, x.bag = r.bag) ∨ x = record := by
  obtain ⟨r, hr, rfl⟩ := List.mem_map.1 h
  split
  · exact .inr rfl
  · exact .inl ⟨r, hr, rfl⟩

end Storage

namespace Registry

section

variable {σ : Type}

/-- The records after a visit, if some were stored before it and it is answered so. -/
def Entry.write (rs : List Record) (e : Entry σ) : List Record :=
  match e.demand, e.answer with
  | .publish _ _, .ok record => withVersion rs record
  | .edit _ _ _, .ok record => withEdit rs record
  | _, .error _ => rs

/-- The records that the answers of a chronicle tell of. -/
def written (es : List (Entry σ)) : List Record := es.foldl Entry.write []

theorem written_append_singleton (es : List (Entry σ)) (e : Entry σ) :
    written (es ++ [e]) = e.write (written es) := by
  rw [written, List.foldl_append]
  rfl

variable {rs : List Record} {e : Entry σ}

theorem Entry.bag_of_mem_write {x : Record} (h : x ∈ e.write rs) :
    (∃ r ∈ rs, x.bag = r.bag) ∨ e.answer = .ok x := by
  obtain ⟨demand, answer, told, store⟩ := e
  cases answer with
  | error stop => cases demand <;> exact .inl ⟨x, h, rfl⟩
  | ok record =>
      cases demand with
      | publish submission publisher =>
          exact (bag_of_mem_withVersion h).imp_right fun hx => congrArg Except.ok hx.symm
      | edit id submission editor =>
          exact (bag_of_mem_withEdit h).imp_right fun hx => congrArg Except.ok hx.symm

/-- An answer tells of the records that it leaves: it tells of one of them, whose bag came with the demand or
was stored. -/
structure Entry.Receipt (e : Entry σ) (rs rs' : List Record) : Prop where
  write : rs' = e.write rs
  mem : ∀ record, e.answer = .ok record → record ∈ rs'
  bag : ∀ record, e.answer = .ok record →
    record.bag = e.demand.bag ∨ ∃ r ∈ rs, record.bag = r.bag

theorem receipt_refused (demand : Demand) (stop : Stop Failure) (told : List Event) (s : σ)
    (rs : List Record) : Entry.Receipt ⟨demand, .error stop, told, s⟩ rs rs where
  write := by cases demand <;> rfl
  mem record h := nomatch h
  bag record h := nomatch h

end

variable {σ : Type} [Store σ] [Ledger σ] {rs rs' : List Record} {past : List Visit} {v : Visit}

/-- What is read of a store that reads its records as they are is what is stored. -/
theorem receipt_published {p : Publish} {moment : Moment} {existing : List Record} {told : List Event}
    {s : σ} (hd : Distinct (rs.map Record.imprint)) (hleg : ∀ r ∈ rs, Ledger.Legible σ r.bag)
    (hcopies : Copies (Ledger.Legible σ) rs p.manifest.name existing)
    (hc : Memory.committed rs (p.record moment existing) (p.demotion moment existing) = .ok rs') :
    Entry.Receipt ⟨.publish p.submission p.publisher, .ok (p.record moment existing), told, s⟩ rs rs' := by
  have hwrite : rs' = withVersion rs (p.record moment existing) := by
    refine withVersion_of_committed hd ?_ hc
    intro d hdem
    obtain ⟨l, hl, hlf, rfl, htakes, -⟩ := Publish.demotion_eq_some hdem
    obtain ⟨r, hr, hshow, hname⟩ := hcopies l hl
    obtain rfl := hshow.eq (hleg r hr)
    exact ⟨htakes, l, hr, hname, hlf, rfl⟩
  refine ⟨hwrite, ?_, ?_⟩
  · rintro record ⟨⟩
    rw [hwrite]
    exact List.mem_append_right _ (List.mem_singleton.2 rfl)
  · rintro record ⟨⟩
    exact .inl rfl

theorem receipt_edited {e : Edit} {now : Instant} {x r : Record} {k : Nat} {told : List Event} {s : σ}
    (hd : Distinct (rs.map Record.imprint)) (hleg : ∀ r ∈ rs, Ledger.Legible σ r.bag)
    (hr : rs[k]? = some r) (hx : Shows (Ledger.Legible σ) x r)
    (hv : r.isVersion e.id e.manifest.version = true) :
    Entry.Receipt ⟨.edit e.id e.submission e.editor, .ok (e.edited now x), told, s⟩ rs
      (rs.set k (e.edited now x)) := by
  obtain rfl := hx.eq (hleg r (List.mem_of_getElem? hr))
  have hid := (Record.isVersion_iff.1 hv).1
  refine ⟨withEdit_of_set hd hr (hid ▸ hv), ?_, ?_⟩
  · rintro record ⟨⟩
    exact List.mem_set (List.getElem?_eq_some_iff.1 hr).1 _
  · rintro record ⟨⟩
    by_cases hempty : e.submission.bag.isEmpty = true
    · exact .inr ⟨x, List.mem_of_getElem? hr, if_pos hempty⟩
    · exact .inl (if_neg hempty)

/-- **A visit leaves the records that its answer tells of**, if those before it are read as they are. -/
theorem entry_writes {r : Registry σ} (h : Lasting r.store rs past)
    (hleg : ∀ x ∈ rs, Ledger.Legible σ x.bag) (hread : ∀ i, (v.clock i).now.IsReading)
    (hnew : ∀ i, ¬Visits.Offered past (v.clock i).freshId) :
    Lasting (r.serve v).store ((r.entry v).write rs) (past ++ [v]) ∧
      (r.entry v).Receipt rs ((r.entry v).write rs) := by
  have hcases : ∃ rs', Lasting (r.serve v).store rs' (past ++ [v]) ∧ (r.entry v).Receipt rs rs' := by
    refine entry_cases h hread hnew (P := fun e rs' => e.Receipt rs rs') ?_ ?_ ?_
    · intro demand stop s
      exact receipt_refused demand stop [] s rs
    · intro p moment existing s rs' _ hcopies hc
      exact receipt_published h.distinct hleg hcopies hc
    · intro e now x stored k s hr hx hv _
      exact receipt_edited h.distinct hleg hr hx hv
  obtain ⟨rs', hlasting, hreceipt⟩ := hcases
  exact hreceipt.write ▸ ⟨hlasting, hreceipt⟩

end Registry

end ManifestRegistry
