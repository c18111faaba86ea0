/-
**Some names of a store by themselves.**

Taking the records of some names out of a store leaves a smaller one.  A test that only records of these
names can pass finds the same there, a write of one of them does the same there, and a write of another name
does nothing there.  So whatever is said of the smaller store is said of the names in the larger one.

Main results:

* `Storage.findIdx?_part` — a place among the records of some names, and what is put there;
* `Storage.Memory.committed_part`, `Storage.Rows.committed_part` — **a commit to some names is one to the
  whole**, seen from these names;
* `Storage.Rows.reviseAll_part` — so is an update;
* `Storage.Memory.part_committed`, `Storage.Rows.part_committed` — **a commit to another name is nothing** to
  them.
-/

import ManifestRegistry.Proofs.Storage.Candid
import ManifestRegistry.Proofs.Storage.Writes

set_option relaxedAutoImplicit false
set_option autoImplicit false

namespace ManifestRegistry

namespace Storage

/-! ### Tests that only a part can pass -/

section

variable {α : Type} {keep test : α → Bool} {as : List α}
  (h : ∀ a ∈ as, test a = true → keep a = true)
include h

theorem filter_part : (as.filter keep).filter test = as.filter test := by
  rw [List.filter_filter]
  refine List.filter_congr ?_
  intro a ha
  cases ht : test a with
  | false => rfl
  | true => rw [h a ha ht, Bool.and_self]

theorem find?_part : (as.filter keep).find? test = as.find? test := by
  rw [← List.head?_filter, ← List.head?_filter, filter_part h]

theorem countP_part : (as.filter keep).countP test = as.countP test := by
  rw [List.countP_eq_length_filter, List.countP_eq_length_filter, filter_part h]

theorem any_part : (as.filter keep).any test = as.any test := by
  have hself : ∀ bs : List α, (bs.filter test).any test = bs.any test := fun bs => by
    simp only [List.any_filter, Bool.and_self]
  rw [← hself, filter_part h, hself]

/-- What passes a test is at a place of the part, too, and may be replaced there by something else of the
part. -/
theorem findIdx?_part : (as.findIdx? test = none ∧ (as.filter keep).findIdx? test = none) ∨
    ∃ i j, as.findIdx? test = some i ∧ (as.filter keep).findIdx? test = some j ∧
      (as.filter keep)[j]? = as[i]? ∧
      ∀ b, keep b = true → (as.set i b).filter keep = (as.filter keep).set j b := by
  induction as with
  | nil => exact .inl ⟨rfl, rfl⟩
  | cons a as ih =>
      have hrest := ih fun b hb => h b (List.mem_cons_of_mem _ hb)
      rw [List.findIdx?_cons]
      cases ht : test a with
      | true =>
          have hk := h a List.mem_cons_self ht
          refine .inr ⟨0, 0, rfl, ?_, ?_, ?_⟩
          · rw [List.filter_cons_of_pos hk, List.findIdx?_cons, ht, if_pos rfl]
          · rw [List.filter_cons_of_pos hk]
            rfl
          · intro b hb
            rw [List.filter_cons_of_pos hk, List.set_cons_zero, List.set_cons_zero,
              List.filter_cons_of_pos hb]
      | false =>
          simp only [Bool.false_eq_true, if_false]
          cases hk : keep a with
          | true =>
              rw [List.filter_cons_of_pos hk, List.findIdx?_cons, ht]
              simp only [Bool.false_eq_true, if_false]
              rcases hrest with ⟨hnone, hnone'⟩ | ⟨i, j, hi, hj, hsame, hset⟩
              · rw [hnone, hnone']
                exact .inl ⟨rfl, rfl⟩
              · refine .inr ⟨i + 1, j + 1, by rw [hi]; rfl, by rw [hj]; rfl, hsame, ?_⟩
                intro b hb
                rw [List.set_cons_succ, List.set_cons_succ, List.filter_cons_of_pos hk, hset b hb]
          | false =>
              have hno : ¬keep a = true := by simp [hk]
              rw [List.filter_cons_of_neg hno]
              rcases hrest with ⟨hnone, hnone'⟩ | ⟨i, j, hi, hj, hsame, hset⟩
              · rw [hnone]
                exact .inl ⟨rfl, hnone'⟩
              · refine .inr ⟨i + 1, j, by rw [hi]; rfl, hj, hsame, ?_⟩
                intro b hb
                rw [List.set_cons_succ, List.filter_cons_of_neg hno, hset b hb]

end

/-! ### Records of some names -/

namespace Memory

variable {own : String → Bool} {rs rs' : List Record} {record p : Record} {previous : Option Record}

theorem insert_part (hown : own record.name = true) : insert (rs.filter fun r => own r.name) record =
    (insert rs record).map (List.filter fun r => own r.name) := by
  have hversion : ∀ r ∈ rs, (decide (r.name = record.name) && decide (r.version = record.version)) = true →
      own r.name = true := by
    intro r _ ht
    rw [of_decide_eq_true (Bool.and_eq_true_iff.1 ht).1, hown]
  have hflag : ∀ r ∈ rs, (decide (r.name = record.name) && r.isLatest) = true → own r.name = true := by
    intro r _ ht
    rw [of_decide_eq_true (Bool.and_eq_true_iff.1 ht).1, hown]
  simp only [insert, any_part hversion, any_part hflag]
  split
  · rfl
  · split
    · rfl
    · simp [Except.map, hown]

theorem demote_part (hown : own p.name = true)
    (hversion : ∀ r ∈ rs, r.isVersion p.id p.version = true → own r.name = true) :
    demote (rs.filter fun r => own r.name) p =
      (demote rs p).map (List.filter fun r => own r.name) := by
  rcases findIdx?_part hversion with ⟨hnone, hnone'⟩ | ⟨i, j, hi, hj, hsame, hset⟩
  · simp only [demote, place?, hnone, hnone']
    rfl
  · simp only [demote, place?, hi, hj, hsame]
    split
    · exact congrArg Except.ok (hset p hown).symm
    · rfl

variable (own)

/-- **A commit to some names is one to the whole**, seen from these names. -/
theorem committed_part (hown : own record.name = true)
    (hprevious : ∀ p, previous = some p → own p.name = true ∧
      ∀ r ∈ rs, r.isVersion p.id p.version = true → own r.name = true) :
    committed (rs.filter fun r => own r.name) record previous =
      (committed rs record previous).map (List.filter fun r => own r.name) := by
  have hdemoted : demoted (rs.filter fun r => own r.name) previous =
      (demoted rs previous).map (List.filter fun r => own r.name) := by
    cases previous with
    | none => rfl
    | some p => exact demote_part (hprevious p rfl).1 (hprevious p rfl).2
  have hrest : ((demoted (rs.filter fun r => own r.name) previous).bind fun rs => insert rs record) =
      ((demoted rs previous).bind fun rs => insert rs record).map (List.filter fun r => own r.name) := by
    rw [hdemoted]
    cases demoted rs previous with
    | error e => rfl
    | ok rs₁ => exact insert_part hown
  have hfind : ∀ r ∈ rs, decide (r.name = record.name) = true → own r.name = true := by
    intro r _ ht
    rw [of_decide_eq_true ht, hown]
  rw [committed_eq, committed_eq, find?_part hfind, hrest]
  cases rs.find? fun r => r.name = record.name with
  | none => rfl
  | some owner =>
      simp only
      split <;> rfl

/-- **A commit to another name is nothing** to some names. -/
theorem part_committed (hown : own record.name = false)
    (hprevious : ∀ p, previous = some p → own p.name = false ∧
      ∀ r ∈ rs, r.isVersion p.id p.version = true → own r.name = false)
    (hc : committed rs record previous = .ok rs') :
    (rs'.filter fun r => own r.name) = rs.filter fun r => own r.name := by
  obtain ⟨-, rs₁, hdemoted, hinsert⟩ := committed_eq_ok.1 hc
  obtain ⟨-, -, rfl⟩ := insert_eq_ok.1 hinsert
  rw [List.filter_append, List.filter_cons_of_neg (by simp [hown]), List.filter_nil, List.append_nil]
  cases previous with
  | none =>
      obtain rfl : rs = rs₁ := Except.ok.inj hdemoted
      rfl
  | some p =>
      obtain ⟨i, r, hi, hr, -, rfl⟩ := demote_eq_ok.1 hdemoted
      obtain ⟨hp, hversion⟩ := hprevious p rfl
      obtain ⟨s, hs, hv⟩ := place?_eq_some hi
      refine filter_set_of_not (i := i) hp ?_
      intro b hb
      obtain rfl : s = b := Option.some_inj.1 (hs.symm.trans hb)
      exact hversion s (List.mem_of_getElem? hs) hv

end Memory

/-! ### Rows of some names -/

namespace Rows

variable {own : String → Bool} {rows rows' : List Row} {record p : Record} {previous : Option Record}
  {row : Row}

/-- Whether a row may stand beside others is a matter of its name only. -/
theorem checkBeside_part (hown : own row.name = true) :
    checkBeside (rows.filter fun r => own r.name) row = checkBeside rows row := by
  have hversion : ∀ r ∈ rows, (decide (r.name = row.name) && decide (r.version = row.version)) = true →
      own r.name = true := by
    intro r _ ht
    rw [of_decide_eq_true (Bool.and_eq_true_iff.1 ht).1, hown]
  have hflag : ∀ r ∈ rows, (decide (r.name = row.name) && r.isLatest) = true → own r.name = true := by
    intro r _ ht
    rw [of_decide_eq_true (Bool.and_eq_true_iff.1 ht).1, hown]
  simp only [checkBeside, any_part hversion, any_part hflag]

theorem insert_part (hown : own record.name = true) : insert (rows.filter fun r => own r.name) record =
    (insert rows record).map (List.filter fun r => own r.name) := by
  have hrow : own (Row.ofRecord record).name = true := hown
  simp only [insert, checkBeside_part hrow]
  cases checkBeside rows (Row.ofRecord record) with
  | error e => rfl
  | ok u =>
      simp [bind, Except.bind, Except.map, hrow]

/-- The rows of some names are those that what leaves names alone was made of. -/
theorem filter_map_part {change : Row → Row} (h : ∀ r ∈ rows, own (change r).name = own r.name) :
    ((rows.map change).filter fun r => own r.name) = (rows.filter fun r => own r.name).map change := by
  rw [List.filter_map]
  exact congrArg _ (List.filter_congr h)

theorem demote_part (hversion : ∀ r ∈ rows, r.isVersion p.id p.version = true → own r.name = true) :
    demote (rows.filter fun r => own r.name) p =
      (demote rows p).map (List.filter fun r => own r.name) := by
  have hany : ∀ r ∈ rows, isLatestVersion p r = true → own r.name = true := fun r hr ht =>
    hversion r hr (Bool.and_eq_true_iff.1 ht).1
  simp only [demote, any_part hany]
  split
  · refine congrArg Except.ok (filter_map_part ?_).symm
    intro r _
    split <;> rfl
  · rfl

variable (own)

/-- **A commit to some names is one to the whole**, seen from these names. -/
theorem committed_part (hown : own record.name = true)
    (hprevious : ∀ p, previous = some p →
      ∀ r ∈ rows, r.isVersion p.id p.version = true → own r.name = true) :
    committed (rows.filter fun r => own r.name) record previous =
      (committed rows record previous).map (List.filter fun r => own r.name) := by
  have hdemoted : demoted (rows.filter fun r => own r.name) previous =
      (demoted rows previous).map (List.filter fun r => own r.name) := by
    cases previous with
    | none => rfl
    | some p => exact demote_part (hprevious p rfl)
  have hrest : ((demoted (rows.filter fun r => own r.name) previous).bind fun rows => insert rows record) =
      ((demoted rows previous).bind fun rows => insert rows record).map
        (List.filter fun r => own r.name) := by
    rw [hdemoted]
    cases demoted rows previous with
    | error e => rfl
    | ok rows₁ => exact insert_part hown
  have hfind : ∀ r ∈ rows, decide (r.name = record.name) = true → own r.name = true := by
    intro r _ ht
    rw [of_decide_eq_true ht, hown]
  rw [committed_eq, committed_eq, find?_part hfind, hrest]
  cases rows.find? fun r => r.name = record.name with
  | none => rfl
  | some owner =>
      simp only
      split <;> rfl

/-- **A commit to another name is nothing** to some names. -/
theorem part_committed (hown : own record.name = false)
    (hprevious : ∀ p, previous = some p →
      ∀ r ∈ rows, r.isVersion p.id p.version = true → own r.name = false)
    (hc : committed rows record previous = .ok rows') :
    (rows'.filter fun r => own r.name) = rows.filter fun r => own r.name := by
  obtain ⟨-, rows₁, hdemoted, hinsert⟩ := committed_eq_ok.1 hc
  obtain rfl := insert_eq_ok hinsert
  have hrow : own (Row.ofRecord record).name = false := hown
  have hadded : ((rows₁ ++ [Row.ofRecord record]).filter fun r => own r.name) =
      rows₁.filter fun r => own r.name := by
    simp [hrow]
  rw [hadded]
  cases previous with
  | none =>
      obtain rfl : rows = rows₁ := Except.ok.inj hdemoted
      rfl
  | some p =>
      simp only [demoted, demote] at hdemoted
      split at hdemoted
      · obtain rfl := Except.ok.inj hdemoted
        rw [filter_map_part fun r _ => by split <;> rfl]
        conv => rhs; rw [← List.map_id (rows.filter fun r => own r.name)]
        refine List.map_congr_left ?_
        intro r hr
        obtain ⟨hmem, hkept⟩ := List.mem_filter.1 hr
        -- what is demoted has another name
        rw [if_neg]
        · rfl
        · intro ht
          rw [hprevious p rfl r hmem (Bool.and_eq_true_iff.1 ht).1] at hkept
          cases hkept
      · cases hdemoted

/-- **An update to some names is one to the whole**, seen from these names. -/
theorem reviseAll_part {id : Uuid} (hown : own record.name = true) (done : List Row) {rest : List Row}
    (hversion : ∀ r ∈ rest, r.isVersion id record.version = true → own r.name = true) :
    reviseAll id record (done.filter fun r => own r.name) (rest.filter fun r => own r.name) =
      (reviseAll id record done rest).map (List.filter fun r => own r.name) := by
  -- rows of other names go over to those that are done as they are
  induction rest generalizing done with
  | nil => rfl
  | cons row rest ih =>
      have hrest : ∀ r ∈ rest, r.isVersion id record.version = true → own r.name = true :=
        fun r hr => hversion r (List.mem_cons_of_mem _ hr)
      have hnext : ∀ new : Row, own new.name = true →
          reviseAll id record ((done.filter fun r => own r.name) ++ [new])
            (rest.filter fun r => own r.name) =
          (reviseAll id record (done ++ [new]) rest).map (List.filter fun r => own r.name) := by
        intro new hnew
        have hadded : ((done ++ [new]).filter fun r => own r.name) =
            (done.filter fun r => own r.name) ++ [new] := by
          simp [hnew]
        rw [← ih _ hrest, hadded]
      cases hk : own row.name with
      | true =>
          have hhead : ((row :: rest).filter fun r => own r.name) =
              row :: rest.filter fun r => own r.name := by
            simp [hk]
          rw [hhead, reviseAll, reviseAll]
          split
          · have hrevised : own (revise record row).name = true := hown
            simp only [← List.filter_append, checkBeside_part hrevised]
            rw [hnext _ hrevised]
            cases checkBeside (done ++ rest) (revise record row) <;> rfl
          · exact hnext row hk
      | false =>
          have hother : ¬row.isVersion id record.version = true := by
            intro hv
            rw [hversion row List.mem_cons_self hv] at hk
            cases hk
          have hadded : ((done ++ [row]).filter fun r => own r.name) = done.filter fun r => own r.name := by
            simp [hk]
          have hhead : ((row :: rest).filter fun r => own r.name) = rest.filter fun r => own r.name := by
            simp [hk]
          rw [hhead, reviseAll, if_neg hother, ← ih _ hrest, hadded]

theorem part_reviseAll {id : Uuid} (hown : own record.name = false)
    (hversion : ∀ r ∈ rows, r.isVersion id record.version = true → own r.name = false)
    (hrevised : reviseAll id record [] rows = .ok rows') :
    (rows'.filter fun r => own r.name) = rows.filter fun r => own r.name := by
  obtain rfl := reviseAll_eq_ok hrevised
  rw [List.nil_append, filter_map_part]
  · conv => rhs; rw [← List.map_id (rows.filter fun r => own r.name)]
    refine List.map_congr_left ?_
    intro r hr
    obtain ⟨hmem, hkept⟩ := List.mem_filter.1 hr
    rw [if_neg]
    · rfl
    · intro hv
      rw [hversion r hmem hv] at hkept
      cases hkept
  · intro r hr
    split
    · rename_i hv
      rw [hversion r hr hv]
      exact hown
    · rfl

end Rows

end Storage

end ManifestRegistry
