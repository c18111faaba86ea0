/-
**Whose a name is.**

A publish gives a new version the identity of the version of its name that was published first; a store
asks of it the identity of the version that it stored first.  Records that are created may come in any
order and under any identities, so the two may differ.  Then no attempt is accepted and the publish gives
up, though nobody else writes.  A list looks for what is to be demoted by identity and version alone: it
also refuses if the first record that it finds there is under another name.

Main definitions:

* `Storage.Memory.owner?`, `Storage.Rows.owner?` — the identity that a store asks of a new version;
* `Service.Publish.Agreed` — **it is that of the version published first**;
* `Storage.Memory.Addressed` — what is found in place of a version is under its name;
* `Registry.Owned` — a publish succeeds with that identity, or ends with a conflict.

Main results:

* `Service.Publish.exists_committed_iff`, `Service.Publish.exists_committed_map_iff` — **which commits a
  list and a table accept**;
* `Storage.Write.fill_creates` — what is stored after any records were created;
* `Registry.publish_owned` — **how a publish ends that passes its gates**.
-/

import ManifestRegistry.Proofs.Registry.Alone
import ManifestRegistry.Proofs.Service.Passing
import ManifestRegistry.Proofs.Storage.Rendering
import ManifestRegistry.Proofs.Storage.Uniqueness

set_option relaxedAutoImplicit false
set_option autoImplicit false

namespace ManifestRegistry

open Service Storage

/-! ### Unique records -/

namespace Storage

variable {rs rs' : List Record}

theorem Unique.place_eq (h : Unique rs) {i j : Nat} {r s : Record} (hi : rs[i]? = some r)
    (hj : rs[j]? = some s) (hclash : r.label.Clashes s.label) : i = j := by
  have hapart := unique_iff.1 h
  rw [Label.Apart, List.pairwise_map, List.pairwise_iff_getElem] at hapart
  obtain ⟨hilt, rfl⟩ := List.getElem?_eq_some_iff.1 hi
  obtain ⟨hjlt, rfl⟩ := List.getElem?_eq_some_iff.1 hj
  rcases Nat.lt_trichotomy i j with hlt | heq | hlt
  · exact absurd hclash (hapart i j hilt hjlt hlt)
  · exact heq
  · exact absurd hclash.symm (hapart j i hjlt hilt hlt)

theorem Unique.flagged_eq (h : Unique rs) {i j : Nat} {r s : Record} (hi : rs[i]? = some r)
    (hj : rs[j]? = some s) (hname : r.name = s.name) (hr : r.isLatest = true)
    (hs : s.isLatest = true) : i = j :=
  h.place_eq hi hj ⟨hname, .inr ⟨hr, hs⟩⟩

/-! ### Whose a name is -/

/-- The identity that a list asks of a new version of a name, if the name has versions. -/
def Memory.owner? (rs : List Record) (name : String) : Option Uuid :=
  (rs.find? fun r => r.name = name).map Record.id

/-- The identity that a table asks of a new version of a name, if the name has versions. -/
def Rows.owner? (rows : List Row) (name : String) : Option Uuid :=
  (rows.find? fun row => row.name = name).map Row.id

theorem Rows.owner?_map (rs : List Record) (name : String) :
    owner? (rs.map Row.ofRecord) name = Memory.owner? rs name := by
  rw [owner?, Memory.owner?, List.find?_map, Option.map_map]
  rfl

theorem Rows.insert_of_checkBeside {rows : List Row} {record : Record}
    (h : checkBeside rows (Row.ofRecord record) = .ok ()) :
    insert rows record = .ok (rows ++ [Row.ofRecord record]) := by
  simp only [insert, h, bind, Except.bind]

/-- What a list finds in place of a version is under the name of that version. -/
def Memory.Addressed (rs : List Record) (d : Record) : Prop :=
  ∀ i r, place? rs d.id d.version = some i → rs[i]? = some r → r.name = d.name

end Storage

namespace Service.Publish

/-- The version published first has the identity that a store asks of a new version. -/
def Agreed (required : Option Uuid) (existing : List Record) : Prop :=
  (earliest? existing).map Record.id = required

theorem Agreed.id_record {required : Option Uuid} {existing : List Record}
    (h : Agreed required existing) (p : Publish) (moment : Moment) :
    (p.record moment existing).id = required.getD moment.freshId := by
  rw [Publish.id_record, identity, h]

/-! ### What has been read of the versions of a name -/

/-- A record that is read with the label and the identity of another one. -/
structure Tells (x r : Record) : Prop where
  label : x.label = r.label
  id : x.id = r.id

/-- All versions of a name have been read, in order. -/
def Told (rs : List Record) (name : String) (existing : List Record) : Prop :=
  List.Forall₂ Tells existing (rs.filter fun r => r.name = name)

namespace Told

variable {rs existing : List Record} {name : String} {r x : Record}

theorem exists_stored (h : Told rs name existing) (hx : x ∈ existing) :
    ∃ r ∈ rs, r.name = name ∧ Tells x r := by
  obtain ⟨r, hr, htells⟩ := exists_of_forall₂ h.flip hx
  obtain ⟨hmem, hname⟩ := List.mem_filter.1 hr
  exact ⟨r, hmem, of_decide_eq_true hname, htells⟩

theorem exists_read (h : Told rs name existing) (hr : r ∈ rs) (hname : r.name = name) :
    ∃ x ∈ existing, Tells x r :=
  exists_of_forall₂ h (List.mem_filter.2 ⟨hr, decide_eq_true hname⟩)

/-- What a page shows of the versions of a name tells of them. -/
theorem of_shown (read : Record → Except StorageError Record) {versions : List (Nat × Record)}
    (hread : ∀ r ∈ rs, ∀ x, read r = .ok x → Tells x r)
    (h : ((numbered rs name).map fun a => ((a.1, read a.2) : Entry)) = versions.map Entry.shown) :
    Told rs name (versions.map Prod.snd) := by
  have hall : ∀ a ∈ numbered rs name, ∀ x, read a.2 = .ok x → Tells x a.2 := fun a ha x hx =>
    hread a.2 (Memory.snd_mem_of_mem_sequenced (List.mem_filter.1 ha).1) x hx
  have htold := forall₂_read hall h
  rwa [map_snd_numbered] at htold

theorem owner?_eq (h : Told rs name existing) :
    Memory.owner? rs name = existing.head?.map Record.id := by
  rw [Memory.owner?, ← List.head?_filter]
  unfold Told at h
  generalize rs.filter (fun r => r.name = name) = stored at h
  cases h with
  | nil => rfl
  | cons htells _ => exact congrArg some htells.id.symm

/-- No version of the name has another identity than that which is planned, as far as the store asks,
exactly if the versions read are agreed on. -/
theorem owner_iff (h : Told rs name existing) (moment : Moment) :
    (∀ owner, rs.find? (fun r => r.name = name) = some owner → owner.id = identity moment existing) ↔
      Agreed (Memory.owner? rs name) existing := by
  rw [Agreed, identity]
  have howner := h.owner?_eq
  cases existing with
  | nil =>
      have hnone : rs.find? (fun r => r.name = name) = none := Option.map_eq_none_iff.1 howner
      simp [hnone, Memory.owner?, earliest?]
  | cons x xs =>
      obtain ⟨first, hfirst⟩ := earliest?_isSome (List.mem_cons_self (a := x) (l := xs))
      obtain ⟨owner, hfound, -⟩ := Option.map_eq_some_iff.1 howner
      simp only [hfirst, hfound, Memory.owner?, Option.map_some, Option.getD_some,
        Option.some.injEq, forall_eq']
      exact eq_comm

end Told

/-! ### Which commits are accepted -/

section

variable {p : Publish} {rs existing : List Record} {moment : Moment}
  (hu : Unique rs) (htold : Told rs p.manifest.name existing)
  (hversion : ∀ x ∈ existing, x.version ≠ p.manifest.version)

include htold hversion in
theorem version_new : ∀ r ∈ rs, r.name = p.manifest.name → r.version ≠ p.manifest.version := by
  intro r hr hname hv
  obtain ⟨x, hx, htells⟩ := htold.exists_read hr hname
  exact hversion x hx ((congrArg Label.version htells.label).trans hv)

include htold in
/-- Without a demotion nothing is flagged that could keep the new version from being so. -/
theorem unflagged_of_demotion_eq_none (h : p.demotion moment existing = none) :
    p.takesOver moment.now existing = true →
      ∀ r ∈ rs, r.name = p.manifest.name → r.isLatest = false := by
  intro htakes r hr hname
  rw [demotion, if_pos htakes, Option.map_eq_none_iff, List.find?_eq_none] at h
  obtain ⟨x, hx, htells⟩ := htold.exists_read hr hname
  have hflag : r.isLatest = x.isLatest := (congrArg Label.isLatest htells.label).symm
  rw [hflag]
  simpa using h x hx

include hu htold in
/-- What is to be demoted is the flagged version of the name, which a list finds if it is addressed. -/
theorem exists_demoted {d : Record} (h : p.demotion moment existing = some d) :
    ∃ (i : Nat) (r : Record), rs[i]? = some r ∧ r.name = p.manifest.name ∧ r.isLatest = true ∧
      r.isVersion d.id d.version = true ∧ d.isLatest = false ∧
      (Memory.Addressed rs d ↔ Memory.place? rs d.id d.version = some i) := by
  obtain ⟨l, hl, hflag, rfl, -⟩ := demotion_eq_some h
  obtain ⟨r, hr, hname, hlabel, hid⟩ := htold.exists_stored hl
  have hv : r.isVersion (l.demoted moment.now).id (l.demoted moment.now).version = true :=
    Record.isVersion_iff.2 ⟨hid.symm, (congrArg Label.version hlabel).symm⟩
  have hd : (l.demoted moment.now).name = r.name := congrArg Label.name hlabel
  obtain ⟨i, hi⟩ := List.mem_iff_getElem?.1 hr
  obtain ⟨k, hplace⟩ := Memory.place?_isSome hr hv
  obtain ⟨s, hk, hsv⟩ := Memory.place?_eq_some hplace
  refine ⟨i, r, hi, hname, (congrArg Label.isLatest hlabel).symm.trans hflag, hv, rfl, ?_, ?_⟩
  · intro haddr
    have hclash : s.label.Clashes r.label := ⟨(haddr k s hplace hk).trans hd,
      .inl ((Record.isVersion_iff.1 hsv).2.trans (Record.isVersion_iff.1 hv).2.symm)⟩
    rw [hplace, hu.place_eq hk hi hclash]
  · intro hi' j s' hj hs'
    obtain rfl : i = j := Option.some_inj.1 (hi'.symm.trans hj)
    obtain rfl : r = s' := Option.some_inj.1 (hi.symm.trans hs')
    exact hd.symm

include hu htold hversion

/-- **Which commits a list accepts**: those of versions that are agreed on, if what they demote is found
under its name. -/
theorem exists_committed_iff : (∃ rs', Memory.committed rs (p.record moment existing)
      (p.demotion moment existing) = .ok rs') ↔
    Agreed (Memory.owner? rs p.manifest.name) existing ∧
      ∀ d, p.demotion moment existing = some d → Memory.Addressed rs d := by
  have hnew := version_new htold hversion
  simp only [Memory.committed_eq_ok, exists_and_left]
  refine and_congr (htold.owner_iff moment) ?_
  cases hdem : p.demotion moment existing with
  | none =>
      simp only [reduceCtorEq, false_implies, implies_true, iff_true]
      exact ⟨_, rs, rfl, Memory.insert_eq_ok.2
        ⟨hnew, unflagged_of_demotion_eq_none htold hdem, rfl⟩⟩
  | some d =>
      obtain ⟨i, r, hi, hname, hflag, hv, hunflagged, haddr⟩ := exists_demoted hu htold hdem
      simp only [Option.some.injEq, forall_eq', haddr]
      constructor
      · rintro ⟨rs', rs₁, hd, hins⟩
        obtain ⟨k, s, hk, -, -, rfl⟩ := Memory.demote_eq_ok.1 hd
        rw [hk]
        by_contra hne
        -- the flagged version of the name would stand beside the new one
        have hkept : r ∈ rs.set k d := by
          refine List.mem_of_getElem? (i := i) ?_
          rw [List.getElem?_set_ne fun hki => hne (congrArg some hki), hi]
        obtain ⟨-, -, -, -, htakes, -⟩ := demotion_eq_some hdem
        have hno := (Memory.insert_eq_ok.1 hins).2.1 htakes r hkept hname
        rw [hflag] at hno
        cases hno
      · intro hplace
        refine ⟨_, rs.set i d, Memory.demote_eq_ok.2 ⟨i, r, hplace, hi, hflag, rfl⟩,
          Memory.insert_eq_ok.2 ⟨?_, ?_, rfl⟩⟩
        · intro s hs hsn
          rcases List.mem_or_eq_of_mem_set hs with hs | rfl
          · exact hnew s hs hsn
          · rw [← (Record.isVersion_iff.1 hv).2]
            exact hnew r (List.mem_of_getElem? hi) hname
        · intro _ s hs hsn
          obtain ⟨k, hk⟩ := List.mem_iff_getElem?.1 hs
          by_cases hik : i = k
          · subst hik
            rw [List.getElem?_set_self (List.getElem?_eq_some_iff.1 hi).1] at hk
            rw [← Option.some_inj.1 hk, hunflagged]
          · rw [List.getElem?_set_ne hik] at hk
            cases hsl : s.isLatest with
            | false => rfl
            | true => exact absurd (hu.flagged_eq hi hk (hname.trans hsn.symm) hflag hsl) hik

/-- The new version may stand beside the rows once the flagged one of its name is demoted, and with it any
other that has its identity and version. -/
theorem checkBeside_demoted {d : Record} (hdem : p.demotion moment existing = some d) :
    Rows.checkBeside ((rs.map Row.ofRecord).map fun row =>
      if Rows.isLatestVersion d row then Rows.demoteRow d row else row)
        (Row.ofRecord (p.record moment existing)) = .ok () := by
  obtain ⟨i, r, hi, hname, hflag, hv, -, -⟩ := exists_demoted hu htold hdem
  -- a row keeps its name and version, and of the name only the one that is demoted was flagged
  have hkeeps : ∀ row : Row,
      (if Rows.isLatestVersion d row then Rows.demoteRow d row else row).name = row.name ∧
        (if Rows.isLatestVersion d row then Rows.demoteRow d row else row).version = row.version := by
    intro row
    split <;> exact ⟨rfl, rfl⟩
  rw [Rows.checkBeside_eq_ok, List.forall_mem_map, List.forall_mem_map]
  refine ⟨fun s hs hsn => ?_, fun _ => ?_⟩
  · rw [(hkeeps _).2]
    exact version_new htold hversion s hs ((hkeeps _).1.symm.trans hsn)
  · rw [List.forall_mem_map, List.forall_mem_map]
    intro s hs hsn
    have hsn' : s.name = p.manifest.name := (hkeeps _).1.symm.trans hsn
    split
    · rfl
    · rename_i hno
      cases hsl : s.isLatest with
      | false => exact hsl
      | true =>
          obtain ⟨k, hk⟩ := List.mem_iff_getElem?.1 hs
          obtain rfl := hu.flagged_eq hi hk (hname.trans hsn'.symm) hflag hsl
          obtain rfl : r = s := Option.some_inj.1 (hi.symm.trans hk)
          exact absurd (Bool.and_eq_true_iff.2 ⟨hv, hflag⟩) hno

/-- **Which commits a table accepts**: those of versions that are agreed on. -/
theorem exists_committed_map_iff : (∃ rows', Rows.committed (rs.map Row.ofRecord)
      (p.record moment existing) (p.demotion moment existing) = .ok rows') ↔
    Agreed (Rows.owner? (rs.map Row.ofRecord) p.manifest.name) existing := by
  have hnew := version_new htold hversion
  rw [Rows.owner?_map, ← htold.owner_iff moment]
  simp only [Rows.committed_eq_ok, exists_and_left]
  have hfind : ((rs.map Row.ofRecord).find? fun row => row.name = (p.record moment existing).name) =
      (rs.find? fun r => r.name = p.manifest.name).map Row.ofRecord := List.find?_map
  have howner : (∀ owner, (rs.map Row.ofRecord).find?
      (fun row => row.name = (p.record moment existing).name) = some owner →
        owner.id = (p.record moment existing).id) ↔
      ∀ owner, rs.find? (fun r => r.name = p.manifest.name) = some owner →
        owner.id = identity moment existing := by
    rw [hfind]
    cases rs.find? fun r => r.name = p.manifest.name <;> simp [Row.ofRecord]
  rw [howner]
  refine and_iff_left ?_
  cases hdem : p.demotion moment existing with
  | none =>
      have hins : Memory.insert rs (p.record moment existing) = .ok (rs ++ [p.record moment existing]) :=
        Memory.insert_eq_ok.2 ⟨hnew, unflagged_of_demotion_eq_none htold hdem, rfl⟩
      exact ⟨_, rs.map Row.ofRecord, rfl, Rows.insert_map.2 ⟨_, hins, rfl⟩⟩
  | some d =>
      obtain ⟨i, r, hi, hname, hflag, hv, -, -⟩ := exists_demoted hu htold hdem
      have hany : (rs.map Row.ofRecord).any (Rows.isLatestVersion d) = true := by
        rw [List.any_map, List.any_eq_true]
        exact ⟨r, List.mem_of_getElem? hi, Bool.and_eq_true_iff.2 ⟨hv, hflag⟩⟩
      exact ⟨_, _, if_pos hany,
        Rows.insert_of_checkBeside (checkBeside_demoted hu htold hversion hdem)⟩

end

end Service.Publish

/-! ### Why commits are refused -/

namespace Storage

variable {record : Record} {previous : Option Record} {e : StorageError}

/-- What one step after another fails with is what one of them fails with. -/
theorem eq_error_of_bind {ε α β : Type} {a : Except ε α} {f : α → Except ε β} {e : ε}
    (h : a.bind f = .error e) : a = .error e ∨ ∃ x, f x = .error e := by
  cases a with
  | error e' => exact .inl (congrArg Except.error (Except.error.inj h))
  | ok x => exact .inr ⟨x, h⟩

/-- **A commit to a list is refused for a conflict only.** -/
theorem Memory.retries_of_committed {rs : List Record}
    (h : committed rs record previous = .error e) : e.Retries := by
  have hdemoted : demoted rs previous = .error e → e.Retries := by
    intro h
    cases previous with
    | none => cases h
    | some p =>
        simp only [demoted, demote] at h
        split at h
        · split at h
          · cases h
          · exact .inl ⟨_, (Except.error.inj h).symm⟩
        · exact .inl ⟨_, (Except.error.inj h).symm⟩
  have hinsert : ∀ rs, insert rs record = .error e → e.Retries := by
    intro rs h
    unfold insert at h
    split at h
    · exact .inr ⟨_, (Except.error.inj h).symm⟩
    · split at h
      · exact .inl ⟨_, (Except.error.inj h).symm⟩
      · cases h
  have hbind : (demoted rs previous).bind (fun rs => insert rs record) = .error e → e.Retries := by
    intro h
    rcases eq_error_of_bind h with hfail | ⟨rs₁, hfail⟩
    · exact hdemoted hfail
    · exact hinsert rs₁ hfail
  rw [committed_eq] at h
  split at h
  · split at h
    · exact .inl ⟨_, (Except.error.inj h).symm⟩
    · exact hbind h
  · exact hbind h

/-- **A commit to a table is refused for a conflict only.** -/
theorem Rows.retries_of_committed {rows : List Row}
    (h : committed rows record previous = .error e) : e.Retries := by
  have hdemoted : demoted rows previous = .error e → e.Retries := by
    intro h
    cases previous with
    | none => cases h
    | some p =>
        simp only [demoted, demote] at h
        split at h
        · cases h
        · exact .inl ⟨_, (Except.error.inj h).symm⟩
  have hinsert : ∀ rows, insert rows record = .error e → e.Retries := by
    intro rows h
    rcases eq_error_of_bind h with hcheck | ⟨-, hok⟩
    · unfold checkBeside at hcheck
      split at hcheck
      · exact .inl ⟨_, (Except.error.inj hcheck).symm⟩
      · split at hcheck
        · exact .inr ⟨_, (Except.error.inj hcheck).symm⟩
        · cases hcheck
    · cases hok
  have hbind : (demoted rows previous).bind (fun rows => insert rows record) = .error e →
      e.Retries := by
    intro h
    rcases eq_error_of_bind h with hfail | ⟨rows₁, hfail⟩
    · exact hdemoted hfail
    · exact hinsert rows₁ hfail
  rw [committed_eq] at h
  split at h
  · split at h
    · exact .inl ⟨_, (Except.error.inj h).symm⟩
    · exact hbind h
  · exact hbind h

/-! ### Records that were created -/

/-- **What is stored after any records were created**: unique records, as far as they were taken, and the
rows of the same. -/
theorem Write.fill_creates (now : Instant) (records : List Record) :
    ∃ rs, Unique rs ∧ rs.length ≤ records.length ∧
      fill now ({} : Memory) (records.map .create) = ⟨rs, false⟩ ∧
      fill now ({} : Rows) (records.map .create) = ⟨rs.map Row.ofRecord, false⟩ := by
  induction records using List.reverseRecOn with
  | nil => exact ⟨[], unique_iff.2 List.Pairwise.nil, Nat.le_refl _, rfl, rfl⟩
  | append_singleton records record ih =>
      obtain ⟨rs, hu, hlen, hlist, htable⟩ := ih
      rw [List.map_append, List.map_singleton, fill_append_singleton, fill_append_singleton, hlist,
        htable, List.length_append, List.length_singleton]
      simp only [perform, Store.call, Memory.create, Rows.create, Bool.false_eq_true, if_false]
      cases hins : Memory.insert rs record with
      | error e =>
          refine ⟨rs, hu, Nat.le_succ_of_le hlen, rfl, ?_⟩
          cases hrow : Rows.insert (rs.map Row.ofRecord) record with
          | error e' => rfl
          | ok rows =>
              obtain ⟨rs', hok, -⟩ := Rows.insert_map.1 hrow
              rw [hins] at hok
              cases hok
      | ok rs' =>
          refine ⟨rs', (Memory.unique_insert hins).2 hu, ?_, rfl, ?_⟩
          · rw [(Memory.insert_eq_ok.1 hins).2.2, List.length_append, List.length_singleton]
            exact Nat.succ_le_succ hlen
          · rw [Rows.insert_map.2 ⟨rs', hins, rfl⟩]
            rfl

end Storage

namespace Service.Publish

variable {rs : List Record} {name : String} {versions : List (Nat × Record)}

/-- A list shows the versions of a name as they are. -/
theorem Told.of_list (h : Catalog.selected (⟨rs, false⟩ : Memory) { name := some name } =
    versions.map Entry.shown) : Told rs name (versions.map Prod.snd) := by
  refine .of_shown .ok (fun r _ x hx => ?_) (Eq.trans ?_ h)
  · obtain rfl := Except.ok.inj hx
    exact ⟨rfl, rfl⟩
  · show _ = ((Memory.sequenced rs).filter fun a =>
      ({ name := some name } : Filter).selects a.2).map Entry.shown
    simp only [selects_name]
    rfl

/-- What is read of the row of a record tells of the record. -/
theorem tells_of_record? {r x : Record} (h : (Row.ofRecord r).record? = .ok x) : Tells x r := by
  have hdoc : (Row.ofRecord r).document = r.text := rfl
  rw [Row.record?_of_document hdoc] at h
  cases hbag : r.bag.reread with
  | error fault =>
      rw [hbag] at h
      cases h
  | ok bag =>
      rw [hbag] at h
      obtain rfl := Except.ok.inj h
      exact ⟨rfl, rfl⟩

/-- What a table lists of a name is read of the rows of its versions. -/
theorem selected_map (rs : List Record) (name : String) :
    Catalog.selected (⟨rs.map Row.ofRecord, false⟩ : Rows) { name := some name } =
      (numbered rs name).map fun a => (a.1, (Row.ofRecord a.2).record?) := by
  show ((Rows.sequenced (rs.map Row.ofRecord)).filter fun a =>
    a.2.selectedBy { name := some name }).map (fun a => (a.1, a.2.record?)) = _
  simp only [Rows.selectedBy_name, Rows.sequenced_map, List.filter_map, List.map_map]
  rfl

/-- A table shows them with their labels and identities, if it can read them. -/
theorem Told.of_table (h : Catalog.selected (⟨rs.map Row.ofRecord, false⟩ : Rows)
    { name := some name } = versions.map Entry.shown) : Told rs name (versions.map Prod.snd) := by
  rw [selected_map] at h
  exact .of_shown (fun r => (Row.ofRecord r).record?) (fun r _ x => tells_of_record?) h

/-! ### What a store makes of a commit -/

variable {p : Publish} {existing : List Record} (hu : Unique rs)
  (htold : Told rs p.manifest.name existing)
  (hversion : ∀ x ∈ existing, x.version ≠ p.manifest.version)
include hu htold hversion

theorem judged_list : p.Judged (⟨rs, false⟩ : Memory) existing fun moment =>
    Agreed (Memory.owner? rs p.manifest.name) existing ∧
      ∀ d, p.demotion moment existing = some d → Memory.Addressed rs d where
  accepts moment h now := by
    obtain ⟨rs', hok⟩ := (exists_committed_iff hu htold hversion).2 h
    simp only [Store.call, Memory.commit_eq, Bool.false_eq_true, if_false, hok]
  refuses moment h now := by
    cases hc : Memory.committed rs (p.record moment existing) (p.demotion moment existing) with
    | ok rs' => exact absurd ((exists_committed_iff hu htold hversion).1 ⟨rs', hc⟩) h
    | error e =>
        refine ⟨e, ?_, Memory.retries_of_committed hc⟩
        simp only [Store.call, Memory.commit_eq, Bool.false_eq_true, if_false, hc]

theorem judged_table : p.Judged (⟨rs.map Row.ofRecord, false⟩ : Rows) existing fun _ =>
    Agreed (Rows.owner? (rs.map Row.ofRecord) p.manifest.name) existing ∧ True where
  accepts moment h now := by
    obtain ⟨rows', hok⟩ : ∃ rows', Rows.committed (rs.map Row.ofRecord) (p.record moment existing)
        (p.demotion moment existing) = .ok rows' :=
      (exists_committed_map_iff hu htold hversion).2 h.1
    simp only [Store.call, Rows.commit, Bool.false_eq_true, if_false, hok, Rows.write]
  refuses moment h now := by
    cases hc : Rows.committed (rs.map Row.ofRecord) (p.record moment existing)
        (p.demotion moment existing) with
    | ok rows' =>
        exact absurd ⟨(exists_committed_map_iff hu htold hversion).1 ⟨rows', hc⟩, trivial⟩ h
    | error e =>
        refine ⟨e, ?_, Rows.retries_of_committed hc⟩
        simp only [Store.call, Rows.commit, Bool.false_eq_true, if_false, hc, Rows.write]

end Service.Publish

/-! ### How a publish ends -/

namespace Registry

/-- **A publish succeeds with the identity that is required, or ends with a conflict and leaves the store
as it was**: the one only if the versions are agreed on and what is to be demoted is addressed, the other
only if not. -/
def Owned {σ : Type} [PacedStore σ] (r : Registry σ) (p : Publish) (clock : Nat → Moment)
    (existing : List Record) (required : Option Uuid) (addressed : Moment → Prop) : Prop :=
  (∃ i, (Publish.Agreed required existing ∧ addressed (clock i)) ∧
    (p.record (clock i) existing).id = required.getD (clock i).freshId ∧
    (r.publishAt clock p.submission p.publisher).1 = .ok (p.record (clock i) existing)) ∨
  (∃ i, ¬(Publish.Agreed required existing ∧ addressed (clock i))) ∧
    (∃ reason, (r.publishAt clock p.submission p.publisher).1 =
      failed (.storage (.conflict reason))) ∧
    (r.publishAt clock p.submission p.publisher).2.store = r.store

variable {p : Publish} {versions : List (Nat × Record)}

/-- A publish that passes its gates ends as its commits are judged. -/
theorem owned_of_judged {σ : Type} [Store σ] [Catalog σ] {s : σ} (hs : Catalog.Calm s)
    {clock : Nat → Moment} (h : p.Passes (clock 0).now s versions) {required : Option Uuid}
    {addressed : Moment → Prop}
    (hjudged : p.Judged s (versions.map Prod.snd) fun moment =>
      Publish.Agreed required (versions.map Prod.snd) ∧ addressed moment)
    (events : Broadcast Event) : Owned ⟨p.config, p.validator, s, events⟩ p clock
      (versions.map Prod.snd) required addressed := by
  let r : Registry σ := ⟨p.config, p.validator, s, events⟩
  have hcall : ∀ now c s, r.call now c s = Store.call c now s := fun _ _ _ => within_eq_call _ _ _ _
  have hresolved := Publish.resolved hcall hs clock h hjudged
  have hchange : r.publishAt clock p.submission p.publisher =
      r.concluded (p.machine.runAt r.call clock (p.rounds (Store.size s)) 0 p.start s).2
        ((p.machine.runAt r.call clock (p.rounds (Store.size s)) 0 p.start s).1.getD
          (.error .crashed)) := change_eq ..
  unfold Owned
  rw [hchange, concluded_fst, concluded_store]
  rcases hresolved with ⟨i, haccepted, hok⟩ | ⟨hrefused, ⟨change, hchange, reason, rfl⟩, hstore⟩
  · refine .inl ⟨i, haccepted, haccepted.1.id_record p (clock i), ?_⟩
    rw [hok]
    rfl
  · refine .inr ⟨hrefused, ⟨reason, ?_⟩, hstore⟩
    rw [hchange]
    rfl

section

variable {rs : List Record} (hu : Unique rs) (hfew : rs.length ≤ Cursor.limit)
  (events : Broadcast Event)
include hu hfew

/-- A publish to a list of unique records. -/
theorem owned_list (clock : Nat → Moment)
    (h : p.Passes (clock 0).now (⟨rs, false⟩ : Memory) versions) :
    Owned (⟨p.config, p.validator, ⟨rs, false⟩, events⟩ : Registry Memory) p clock
      (versions.map Prod.snd) (Memory.owner? rs p.manifest.name) fun moment =>
        ∀ d, p.demotion moment (versions.map Prod.snd) = some d → Memory.Addressed rs d :=
  owned_of_judged (Memory.calm rfl hfew) h
    (Publish.judged_list hu (Publish.Told.of_list h.listed) h.version) events

/-- A publish to the rows of unique records. -/
theorem owned_table (clock : Nat → Moment)
    (h : p.Passes (clock 0).now (⟨rs.map Row.ofRecord, false⟩ : Rows) versions) :
    Owned (⟨p.config, p.validator, ⟨rs.map Row.ofRecord, false⟩, events⟩ : Registry Rows) p clock
      (versions.map Prod.snd) (Rows.owner? (rs.map Row.ofRecord) p.manifest.name) fun _ => True :=
  owned_of_judged (Rows.calm rfl (by rwa [List.length_map])) h
    (Publish.judged_table hu (Publish.Told.of_table h.listed) h.version) events

end

/-- **How a publish ends that passes its gates**, whatever records were created before, in any order: it
succeeds with the identity that the store requires if that is the one of the version published first, and
ends with a conflict if it is not.  A list also has to find what is to be demoted under its name. -/
theorem publish_owned (now : Instant) {records : List Record} (hfew : records.length ≤ Cursor.limit)
    (p : Publish) (events : Broadcast Event) (clock : Nat → Moment) (versions : List (Nat × Record)) :
    (let m := Write.fill now ({} : Memory) (records.map .create);
      p.Passes (clock 0).now m versions → Owned ⟨p.config, p.validator, m, events⟩ p clock
        (versions.map Prod.snd) (Memory.owner? m.records p.manifest.name) fun moment =>
          ∀ d, p.demotion moment (versions.map Prod.snd) = some d → Memory.Addressed m.records d) ∧
    (let t := Write.fill now ({} : Rows) (records.map .create);
      p.Passes (clock 0).now t versions → Owned ⟨p.config, p.validator, t, events⟩ p clock
        (versions.map Prod.snd) (Rows.owner? t.rows p.manifest.name) fun _ => True) := by
  obtain ⟨rs, hu, hlen, hlist, htable⟩ := Write.fill_creates now records
  have hfew' := Nat.le_trans hlen hfew
  rw [hlist, htable]
  exact ⟨owned_list hu hfew' events clock, owned_table hu hfew' events clock⟩

/-! ### A name with two identities -/

/-- A version that was published first. -/
def elder : Record where
  manifest := Race.manifest "0.9.0" ""
  registration := .new ⟨2⟩ .epoch false

/-- A version that was published a second later, under another identity. -/
def younger : Record where
  manifest := Race.manifest "1.0.0" ""
  registration := .new ⟨1⟩ ((Instant.ofParts? 1 0).getD .epoch) true

/-- Whichever of them is created first, both are stored. -/
theorem fill_siblings {records : List Record}
    (h : records = [elder, younger] ∨ records = [younger, elder]) :
    Write.fill .epoch ({} : Memory) (records.map .create) = ⟨records, false⟩ ∧
      Write.fill .epoch ({} : Rows) (records.map .create) = ⟨records.map Row.ofRecord, false⟩ := by
  rcases h with rfl | rfl <;> exact ⟨rfl, rfl⟩

/-- What a table lists of the name are both of them. -/
theorem selected_siblings {rs : List Record} (h : ∀ r ∈ rs, r = elder ∨ r = younger) :
    Catalog.selected (⟨rs.map Row.ofRecord, false⟩ : Rows) { name := some "a/b" } =
      (numbered rs "a/b").map Entry.shown := by
  rw [Publish.selected_map]
  refine List.map_congr_left fun a ha => ?_
  have hread : (Row.ofRecord a.2).record? = .ok a.2 := by
    have hplain : a.2.IsDated ∧ a.2.bag = [] := by
      rcases h a.2 (Memory.snd_mem_of_mem_sequenced (List.mem_filter.1 ha).1) with he | he <;>
        rw [he]
      · exact ⟨Registration.isDated_new (show Instant.epoch.IsReading by decide), rfl⟩
      · exact ⟨Registration.isDated_new
          (show ((Instant.ofParts? 1 0).getD .epoch).IsReading by decide), rfl⟩
    have hreread : a.2.bag.reread = .ok a.2.bag := by
      rw [hplain.2]
      rfl
    rw [Row.record?_ofRecord hplain.1, hreread]
  rw [hread]
  rfl

/-- Whichever of them is created first, a publish of another version passes its gates. -/
theorem passes_siblings {records : List Record}
    (h : records = [elder, younger] ∨ records = [younger, elder]) :
    (Race.publish "2.0.0").Passes .epoch (Write.fill .epoch ({} : Memory) (records.map .create))
      (numbered records "a/b") ∧
    (Race.publish "2.0.0").Passes .epoch (Write.fill .epoch ({} : Rows) (records.map .create))
      (numbered records "a/b") := by
  have hpasses : ∀ {σ : Type} [Store σ] [Catalog σ] {s : σ},
      Catalog.selected s { name := some "a/b" } = (numbered records "a/b").map Entry.shown →
        (Race.publish "2.0.0").Passes .epoch s (numbered records "a/b") := by
    intro σ _ _ s hlisted
    refine ⟨.inr (.inl (by decide)), by decide, ?_, hlisted, ?_, ?_⟩
    · intro url hurl
      cases hurl
    · rcases h with rfl | rfl <;> decide
    · rcases h with rfl | rfl <;> decide
  rw [(fill_siblings h).1, (fill_siblings h).2]
  refine ⟨hpasses ?_, hpasses (selected_siblings ?_)⟩
  · rcases h with rfl | rfl <;> rfl
  · rcases h with rfl | rfl <;> simp

/-- Both stores let a publish follow versions that were created in the order of their publication. -/
theorem publish_owned_siblings :
    let p := Race.publish "2.0.0"
    let clock : Nat → Moment := fun _ => ⟨.epoch, ⟨9⟩⟩
    let records := [elder, younger]
    let existing := (numbered records "a/b").map Prod.snd
    (((⟨p.config, p.validator, Write.fill .epoch {} (records.map .create), { room := 1 }⟩ :
      Registry Memory).publishAt clock p.submission p.publisher).1 =
        .ok (p.record ⟨.epoch, ⟨9⟩⟩ existing)) ∧
    ((⟨p.config, p.validator, Write.fill .epoch {} (records.map .create), { room := 1 }⟩ :
      Registry Rows).publishAt clock p.submission p.publisher).1 =
        .ok (p.record ⟨.epoch, ⟨9⟩⟩ existing) := by
  intro p clock records existing
  have hlen : records.length ≤ Cursor.limit := by decide
  obtain ⟨hlist, htable⟩ := publish_owned .epoch hlen p { room := 1 } clock (numbered records "a/b")
  have hpasses := passes_siblings (.inl (rfl : records = [elder, younger]))
  have hagreed : Publish.Agreed (some ⟨2⟩) existing := rfl
  constructor
  · rcases hlist hpasses.1 with ⟨i, -, -, hok⟩ | ⟨⟨i, hno⟩, -⟩
    · exact hok
    · refine absurd ⟨hagreed, ?_⟩ hno
      intro d hd j r hplace hr
      obtain ⟨l, hl, hflag, rfl, -⟩ := Publish.demotion_eq_some hd
      obtain rfl : l = younger := by
        rcases List.mem_pair.1 (show l ∈ [elder, younger] from hl) with rfl | rfl
        · cases hflag
        · rfl
      obtain rfl : 1 = j := Option.some_inj.1 hplace
      obtain rfl : younger = r := Option.some_inj.1 hr
      rfl
  · rcases htable hpasses.2 with ⟨i, -, -, hok⟩ | ⟨⟨i, hno⟩, -⟩
    · exact hok
    · exact absurd ⟨hagreed, trivial⟩ hno

/-- **Both stores may keep a publish from ever succeeding**: versions that were created in another order
than that of their publication. -/
theorem exists_disowned :
    let p := Race.publish "2.0.0"
    let clock : Nat → Moment := fun _ => ⟨.epoch, ⟨9⟩⟩
    let records := [younger, elder]
    let m := Write.fill .epoch ({} : Memory) (records.map .create)
    let t := Write.fill .epoch ({} : Rows) (records.map .create)
    (p.Passes (clock 0).now m (numbered records "a/b") ∧ ∃ reason,
      ((⟨p.config, p.validator, m, { room := 1 }⟩ : Registry Memory).publishAt clock p.submission
        p.publisher).1 = failed (.storage (.conflict reason))) ∧
    p.Passes (clock 0).now t (numbered records "a/b") ∧ ∃ reason,
      ((⟨p.config, p.validator, t, { room := 1 }⟩ : Registry Rows).publishAt clock p.submission
        p.publisher).1 = failed (.storage (.conflict reason)) := by
  intro p clock records m t
  obtain ⟨hlist, htable⟩ := passes_siblings (.inr (rfl : records = [younger, elder]))
  obtain ⟨hm, ht⟩ := fill_siblings (.inr (rfl : records = [younger, elder]))
  have hu : Unique records := by
    rw [unique_iff, Label.Apart]
    decide
  have hlen : records.length ≤ Cursor.limit := by decide
  have hdisagreed : ¬Publish.Agreed (some ⟨1⟩) ((numbered records "a/b").map Prod.snd) := by
    intro h
    cases h
  refine ⟨⟨hlist, ?_⟩, htable, ?_⟩
  · rw [hm] at hlist
    rw [show m = ⟨records, false⟩ from hm]
    rcases owned_list hu hlen { room := 1 } clock hlist with
      ⟨-, ⟨hagreed, -⟩, -⟩ | ⟨-, hconflict, -⟩
    · exact absurd hagreed hdisagreed
    · exact hconflict
  · rw [ht] at htable
    rw [show t = ⟨records.map Row.ofRecord, false⟩ from ht]
    rcases owned_table hu hlen { room := 1 } clock htable with
      ⟨-, ⟨hagreed, -⟩, -⟩ | ⟨-, hconflict, -⟩
    · exact absurd hagreed hdisagreed
    · exact hconflict

end Registry

end ManifestRegistry
