/-
**Orderly records.**

Records are orderly if their imprints are distinct and every name that has a record has exactly one
flagged record, which is at least as high as all others of the name.  A publish decides what to
commit from records that it has read some time before; what such a plan still guarantees when it is
carried out is told by `Planned`, which speaks of imprints only and therefore does not go out of date.

Main definitions:

* `Orderly` — distinct imprints, one flagged record for each name, and none above it;
* `Planned` — what a commit that was planned from records read before is known to be;
* `WellKept` — the records of one name, seen from outside.

Main results:

* `Orderly.committed` — **a planned commit keeps records orderly**;
* `Orderly.updated` — so does putting a state of a version in its place, if the flag stays;
* `Orderly.wellKept` — orderly records are well kept under each of their names.
-/

import ManifestRegistry.Proofs.Records.Imprint
import ManifestRegistry.Proofs.Storage.Memory

set_option relaxedAutoImplicit false
set_option autoImplicit false

namespace ManifestRegistry

open Storage

/-- Distinct imprints, and exactly one flagged record for each name, none of the name being above
it. -/
structure Orderly (rs : List Record) : Prop where
  distinct : Distinct (rs.map Record.imprint)
  /-- Two places with flagged records of one name are one place. -/
  single : ∀ {i j : Nat} {r s : Record}, rs[i]? = some r → rs[j]? = some s → r.name = s.name →
    r.isLatest = true → s.isLatest = true → i = j
  /-- Above each version, or beside it, is a flagged record of its name. -/
  led : ∀ m ∈ rs.map Record.imprint, ∃ l ∈ rs, l.name = m.name ∧ l.isLatest = true ∧
    l.imprint.AtLeast m

/-- What a commit is known to be that was planned from records read before, given the imprints there
are. -/
structure Planned (ms : List Imprint) (record : Record) (previous : Option Record) : Prop where
  /-- A version that does not become the latest one is not above all others. -/
  below : record.isLatest = false → ∃ m ∈ ms, m.name = record.name ∧ m.AtLeast record.imprint
  /-- What is demoted is a stored version of the name, and the new one is at least as high. -/
  demotion : ∀ d, previous = some d → d.imprint ∈ ms ∧ d.isLatest = false ∧ d.name = record.name ∧
    record.isLatest = true ∧ record.imprint.AtLeast d.imprint

theorem Planned.mono {ms ms' : List Imprint} {record : Record} {previous : Option Record}
    (h : Planned ms record previous) (hsub : ∀ m ∈ ms, m ∈ ms') : Planned ms' record previous where
  below hl := by
    obtain ⟨m, hm, hrest⟩ := h.below hl
    exact ⟨m, hsub m hm, hrest⟩
  demotion d hd := by
    obtain ⟨hm, hrest⟩ := h.demotion d hd
    exact ⟨hsub _ hm, hrest⟩

/-- What is demoted is a version that is stored, and its flag is taken. -/
theorem Planned.demoted {ms : List Imprint} {record : Record} {previous : Option Record}
    (h : Planned ms record previous) :
    ∀ d, previous = some d → d.imprint ∈ ms ∧ d.isLatest = false :=
  fun d hd => ⟨(h.demotion d hd).1, (h.demotion d hd).2.1⟩

variable {rs rs₁ rs' : List Record} {record p r : Record} {previous : Option Record} {i : Nat}

/-! ### Places and imprints -/

theorem Distinct.imprint_eq (h : Distinct (rs.map Record.imprint))
    (hi : Memory.place? rs p.id p.version = some i) (hr : rs[i]? = some r)
    (hp : p.imprint ∈ rs.map Record.imprint) : r.imprint = p.imprint := by
  obtain ⟨s, hs, hv⟩ := Memory.place?_eq_some hi
  obtain rfl : s = r := Option.some_inj.1 (hs ▸ hr)
  obtain ⟨hid, hver⟩ := Record.isVersion_iff.1 hv
  obtain ⟨j, hj⟩ := List.mem_iff_getElem?.1 hp
  have hsi : (rs.map Record.imprint)[i]? = some s.imprint := by simp [hs]
  obtain rfl := h.eq_of_id_version hsi hj hid hver
  exact Option.some_inj.1 (hsi ▸ hj)

theorem Distinct.eq_place (h : Distinct (rs.map Record.imprint)) {j : Nat} {id : Uuid}
    {version : String} (hi : Memory.place? rs id version = some i) (hr : rs[j]? = some r)
    (hv : r.isVersion id version = true) : j = i := by
  obtain ⟨s, hs, hsv⟩ := Memory.place?_eq_some hi
  obtain ⟨hrid, hrver⟩ := Record.isVersion_iff.1 hv
  obtain ⟨hsid, hsver⟩ := Record.isVersion_iff.1 hsv
  exact h.eq_of_id_version (a := r.imprint) (b := s.imprint) (by simp [hr]) (by simp [hs])
    (hrid.trans hsid.symm) (hrver.trans hsver.symm)

theorem Distinct.eq_of_imprint (h : Distinct (rs.map Record.imprint)) {s : Record} (hr : r ∈ rs)
    (hs : s ∈ rs) (he : r.imprint = s.imprint) : r = s := by
  obtain ⟨i, hi⟩ := List.mem_iff_getElem?.1 hr
  obtain ⟨j, hj⟩ := List.mem_iff_getElem?.1 hs
  obtain rfl : i = j := h.versions (a := r.imprint) (b := s.imprint) (by simp [hi])
    (by simp [hj]) (congrArg Imprint.name he) (congrArg Imprint.version he)
  exact Option.some_inj.1 (hi.symm.trans hj)

theorem Distinct.exists_place (h : Distinct (rs.map Record.imprint)) {id : Uuid} {version : String}
    (hr : r ∈ rs) (hv : r.isVersion id version = true) :
    ∃ i, Memory.place? rs id version = some i ∧ rs[i]? = some r := by
  obtain ⟨i, hi⟩ := Memory.place?_isSome hr hv
  obtain ⟨j, hj⟩ := List.mem_iff_getElem?.1 hr
  obtain rfl := h.eq_place hi hj hv
  exact ⟨j, hi, hj⟩

theorem Distinct.find?_isVersion (h : Distinct (rs.map Record.imprint)) (hr : r ∈ rs) :
    rs.find? (fun s => s.isVersion r.id r.version) = some r := by
  have hv : r.isVersion r.id r.version = true := Record.isVersion_iff.2 ⟨rfl, rfl⟩
  obtain ⟨s, hs⟩ : ∃ s, rs.find? (fun s => s.isVersion r.id r.version) = some s :=
    Option.isSome_iff_exists.1 (List.find?_isSome.2 ⟨r, hr, hv⟩)
  have htest : s.isVersion r.id r.version = true := by simpa using List.find?_some hs
  obtain ⟨i, hi, hri⟩ := h.exists_place hr hv
  obtain ⟨j, hj⟩ := List.mem_iff_getElem?.1 (List.mem_of_find?_eq_some hs)
  obtain rfl := h.eq_place hi hj htest
  rw [hs, hri.symm.trans hj]

/-- If a test holds in one place of a list only, changing what stands there is changing whatever passes
the test. -/
theorem set_eq_map {α : Type} {as : List α} {a : α} (test : α → Prop) [DecidablePred test]
    (change : α → α) (hi : as[i]? = some a) (htest : test a)
    (honly : ∀ k b, as[k]? = some b → test b → k = i) :
    as.set i (change a) = as.map fun b => if test b then change b else b := by
  refine List.ext_getElem? ?_
  intro k
  rw [List.getElem?_map, List.getElem?_set]
  by_cases hik : i = k
  · subst hik
    rw [if_pos rfl, if_pos (List.getElem?_eq_some_iff.1 hi).1, hi, Option.map_some, if_pos htest]
  · rw [if_neg hik]
    cases hk : as[k]? with
    | none => rfl
    | some b => rw [Option.map_some, if_neg fun hb => hik (honly k b hk hb).symm]

theorem Distinct.map_imprint_demoted (h : Distinct (rs.map Record.imprint))
    (hp : ∀ d, previous = some d → d.imprint ∈ rs.map Record.imprint)
    (hd : Memory.demoted rs previous = .ok rs₁) :
    rs₁.map Record.imprint = rs.map Record.imprint := by
  cases previous with
  | none =>
      obtain rfl : rs = rs₁ := Except.ok.inj hd
      rfl
  | some d =>
      obtain ⟨i, s, hi, hs, -, rfl⟩ := Memory.demote_eq_ok.1 hd
      refine map_imprint_set ?_
      intro t ht
      exact h.imprint_eq hi ht (hp d rfl)

theorem Distinct.map_imprint_committed (h : Distinct (rs.map Record.imprint))
    (hp : ∀ d, previous = some d → d.imprint ∈ rs.map Record.imprint)
    (hc : Memory.committed rs record previous = .ok rs') :
    rs'.map Record.imprint = rs.map Record.imprint ++ [record.imprint] := by
  obtain ⟨-, rs₁, hd, hins⟩ := Memory.committed_eq_ok.1 hc
  obtain ⟨-, -, rfl⟩ := Memory.insert_eq_ok.1 hins
  rw [List.map_append, h.map_imprint_demoted hp hd]
  rfl

/-- A commit that goes through leaves distinct imprints distinct, if the identity does not belong to
another name. -/
theorem Distinct.committed (h : Distinct (rs.map Record.imprint))
    (hid : ∀ m ∈ rs.map Record.imprint, m.id = record.id → m.name = record.name)
    (hp : ∀ d, previous = some d → d.imprint ∈ rs.map Record.imprint)
    (hc : Memory.committed rs record previous = .ok rs') : Distinct (rs'.map Record.imprint) := by
  obtain ⟨howner, rs₁, hd, hins⟩ := Memory.committed_eq_ok.1 hc
  obtain ⟨hnew, -, -⟩ := Memory.insert_eq_ok.1 hins
  rw [h.map_imprint_committed hp hc]
  refine h.append ?_ ?_
  · intro m hm hn
    rw [← h.map_imprint_demoted hp hd] at hm
    obtain ⟨r, hr, rfl⟩ := List.mem_map.1 hm
    exact hnew r hr hn
  · intro m hm
    refine ⟨fun hn => ?_, hid m hm⟩
    -- the first record of the name has the identity, and all others of the name have the same
    obtain ⟨r, hr, rfl⟩ := List.mem_map.1 hm
    obtain ⟨owner, ho⟩ : ∃ owner, rs.find? (fun r => r.name = record.name) = some owner := by
      refine Option.isSome_iff_exists.1 (List.find?_isSome.2 ⟨r, hr, ?_⟩)
      simpa using hn
    have hon : owner.name = record.name := by simpa using List.find?_some ho
    have hro : r.name = owner.name := Eq.trans hn hon.symm
    have hmem : owner.imprint ∈ rs.map Record.imprint :=
      List.mem_map_of_mem (List.mem_of_find?_eq_some ho)
    exact ((h.identity _ hm _ hmem).1 hro).trans (howner owner ho)

namespace Orderly

theorem nil : Orderly [] where
  distinct := .nil
  single h := by simp at h
  led _ h := by simp at h

theorem eq_of_isLatest (h : Orderly rs) {l l' : Record} (hl : l ∈ rs) (hl' : l' ∈ rs)
    (hn : l.name = l'.name) (hf : l.isLatest = true) (hf' : l'.isLatest = true) : l = l' := by
  obtain ⟨i, hi⟩ := List.mem_iff_getElem?.1 hl
  obtain ⟨j, hj⟩ := List.mem_iff_getElem?.1 hl'
  obtain rfl := h.single hi hj hn hf hf'
  exact Option.some_inj.1 (hi ▸ hj)

/-- All records of a name have its identity. -/
theorem identity (h : Orderly rs) {s : Record} (hr : r ∈ rs) (hs : s ∈ rs) :
    r.name = s.name ↔ r.id = s.id :=
  h.distinct.identity _ (List.mem_map_of_mem hr) _ (List.mem_map_of_mem hs)

/-! ### What the demotion of a commit leaves behind -/

theorem mem_demoted (h : Orderly rs) (hd : Memory.demoted rs previous = .ok rs₁)
    (hp : ∀ d, previous = some d → d.imprint ∈ rs.map Record.imprint ∧ d.name = record.name)
    {l : Record} (hl : l ∈ rs) (hn : l.name ≠ record.name) : l ∈ rs₁ := by
  cases previous with
  | none =>
      obtain rfl : rs = rs₁ := Except.ok.inj hd
      exact hl
  | some d =>
      obtain ⟨i, s, hi, hs, -, rfl⟩ := Memory.demote_eq_ok.1 hd
      obtain ⟨hmem, hdn⟩ := hp d rfl
      have hsn : s.name = d.name := congrArg Imprint.name (h.distinct.imprint_eq hi hs hmem)
      obtain ⟨j, hj⟩ := List.mem_iff_getElem?.1 hl
      refine List.mem_iff_getElem?.2 ⟨j, ?_⟩
      have hij : i ≠ j := by
        rintro rfl
        obtain rfl : s = l := Option.some_inj.1 (hs ▸ hj)
        exact hn (hsn.trans hdn)
      rw [List.getElem?_set_ne hij, hj]

theorem isLatest_of_demoted (hd : Memory.demoted rs previous = .ok rs₁)
    (hp : ∀ d, previous = some d → d.isLatest = false) (hr : rs₁[i]? = some r)
    (hf : r.isLatest = true) : rs[i]? = some r := by
  cases previous with
  | none =>
      obtain rfl : rs = rs₁ := Except.ok.inj hd
      exact hr
  | some d =>
      obtain ⟨k, s, -, hs, -, rfl⟩ := Memory.demote_eq_ok.1 hd
      rw [List.getElem?_set] at hr
      split at hr
      · split at hr
        · obtain rfl : d = r := Option.some_inj.1 hr
          simp [hp d rfl] at hf
        · simp at hr
      · exact hr

/-- A new latest version is at least as high as every version of its name: what it demotes was at
the top, or there was no version of the name at all. -/
theorem atLeast_of_isLatest (h : Orderly rs) (hp : Planned (rs.map Record.imprint) record previous)
    (hd : Memory.demoted rs previous = .ok rs₁)
    (hnone : ∀ r ∈ rs₁, r.name = record.name → r.isLatest = false) {m : Imprint}
    (hm : m ∈ rs.map Record.imprint) (hn : m.name = record.name) : record.imprint.AtLeast m := by
  obtain ⟨l, hl, hln, hlf, hlm⟩ := h.led m hm
  cases previous with
  | none =>
      obtain rfl : rs = rs₁ := Except.ok.inj hd
      simp [hnone l hl (hln.trans hn)] at hlf
  | some d =>
      obtain ⟨i, s, hi, hs, hsf, rfl⟩ := Memory.demote_eq_ok.1 hd
      obtain ⟨hmem, -, hdn, -, habove⟩ := hp.demotion d rfl
      have hsd : s.imprint = d.imprint := h.distinct.imprint_eq hi hs hmem
      have hsn : s.name = d.name := congrArg Imprint.name hsd
      obtain rfl : l = s := h.eq_of_isLatest hl (List.mem_of_getElem? hs)
        (by rw [hln, hn, hsn, hdn]) hlf hsf
      rw [hsd] at hlm
      exact habove.trans hlm

/-! ### Writes -/

theorem single_committed (h : Orderly rs) (hd : Memory.demoted rs previous = .ok rs₁)
    (hflag : ∀ d, previous = some d → d.isLatest = false)
    (hnone : record.isLatest = true → ∀ r ∈ rs₁, r.name = record.name → r.isLatest = false)
    {j : Nat} {s : Record} (hr : (rs₁ ++ [record])[i]? = some r)
    (hs : (rs₁ ++ [record])[j]? = some s) (hn : r.name = s.name) (hrf : r.isLatest = true)
    (hsf : s.isLatest = true) : i = j := by
  rcases getElem?_append_singleton hr with hold | ⟨hi, rfl⟩
  · rcases getElem?_append_singleton hs with hold' | ⟨-, rfl⟩
    · exact h.single (isLatest_of_demoted hd hflag hold hrf) (isLatest_of_demoted hd hflag hold' hsf)
        hn hrf hsf
    · rw [hnone hsf r (List.mem_of_getElem? hold) hn] at hrf
      cases hrf
  · rcases getElem?_append_singleton hs with hold' | ⟨hj, -⟩
    · rw [hnone hrf s (List.mem_of_getElem? hold') hn.symm] at hsf
      cases hsf
    · rw [hi, hj]

/-- A version that does not become the latest one leaves all names to those that led them, its own
included. -/
theorem led_of_not_isLatest (h : Orderly rs) (hp : Planned (rs.map Record.imprint) record previous)
    (hf : record.isLatest = false) {m : Imprint}
    (hm : m ∈ rs.map Record.imprint ++ [record.imprint]) :
    ∃ l ∈ rs, l.name = m.name ∧ l.isLatest = true ∧ l.imprint.AtLeast m := by
  rcases List.mem_append.1 hm with hm | hm
  · exact h.led m hm
  · obtain ⟨a, ha, han, haa⟩ := hp.below hf
    obtain ⟨l, hl, hln, hlf, hla⟩ := h.led a ha
    rw [List.mem_singleton.1 hm]
    exact ⟨l, hl, hln.trans han, hlf, hla.trans haa⟩

/-- A version that becomes the latest one leads its name, and leaves other names to those that led
them. -/
theorem led_of_isLatest (h : Orderly rs) (hp : Planned (rs.map Record.imprint) record previous)
    (hd : Memory.demoted rs previous = .ok rs₁)
    (hnone : ∀ r ∈ rs₁, r.name = record.name → r.isLatest = false) (hf : record.isLatest = true)
    {m : Imprint} (hm : m ∈ rs.map Record.imprint ++ [record.imprint]) :
    ∃ l ∈ rs₁ ++ [record], l.name = m.name ∧ l.isLatest = true ∧ l.imprint.AtLeast m := by
  by_cases hn : m.name = record.name
  · refine ⟨record, List.mem_append_right _ List.mem_cons_self, hn.symm, hf, ?_⟩
    rcases List.mem_append.1 hm with hm | hm
    · exact h.atLeast_of_isLatest hp hd hnone hm hn
    · rw [List.mem_singleton.1 hm]
      exact .refl _
  · have hold : m ∈ rs.map Record.imprint := by
      rcases List.mem_append.1 hm with hm | hm
      · exact hm
      · exact absurd (congrArg Imprint.name (List.mem_singleton.1 hm)) hn
    have hname : ∀ d, previous = some d → d.imprint ∈ rs.map Record.imprint ∧
        d.name = record.name := by
      intro d hd
      obtain ⟨hmem, -, hdn, -, -⟩ := hp.demotion d hd
      exact ⟨hmem, hdn⟩
    obtain ⟨l, hl, hln, hlf, hlm⟩ := h.led m hold
    exact ⟨l, List.mem_append_left _ (h.mem_demoted hd hname hl (hln ▸ hn)), hln, hlf, hlm⟩

/-- **A planned commit keeps records orderly.** -/
theorem committed (h : Orderly rs) (hp : Planned (rs.map Record.imprint) record previous)
    (hid : ∀ m ∈ rs.map Record.imprint, m.id = record.id → m.name = record.name)
    (hc : Memory.committed rs record previous = .ok rs') : Orderly rs' := by
  have hmem := fun d hd => (hp.demotion d hd).1
  have hdist := h.distinct.committed hid hmem hc
  have himp := h.distinct.map_imprint_committed hmem hc
  obtain ⟨-, rs₁, hd, hins⟩ := Memory.committed_eq_ok.1 hc
  obtain ⟨-, hnone, rfl⟩ := Memory.insert_eq_ok.1 hins
  refine ⟨hdist, h.single_committed hd (fun d hd => (hp.demotion d hd).2.1) hnone, ?_⟩
  intro m hm
  rw [himp] at hm
  cases hf : record.isLatest with
  | true => exact h.led_of_isLatest hp hd (hnone hf) hf hm
  | false =>
      -- nothing is demoted for such a version
      obtain rfl : previous = none := by
        cases previous with
        | none => rfl
        | some d =>
            rw [(hp.demotion d rfl).2.2.2.1] at hf
            cases hf
      obtain rfl : rs = rs₁ := Except.ok.inj hd
      obtain ⟨l, hl, hrest⟩ := h.led_of_not_isLatest hp hf hm
      exact ⟨l, List.mem_append_left _ hl, hrest⟩

/-- Putting a state of a version in its place keeps records orderly if the flag stays what it is. -/
theorem updated (h : Orderly rs) (hr : rs[i]? = some r) (hm : r.imprint = p.imprint)
    (hf : r.isLatest = p.isLatest) : Orderly (rs.set i p) := by
  have himp : (rs.set i p).map Record.imprint = rs.map Record.imprint := by
    refine map_imprint_set ?_
    intro s hs
    obtain rfl : r = s := Option.some_inj.1 (hr ▸ hs)
    exact hm
  have hback : ∀ {j : Nat} {s : Record}, (rs.set i p)[j]? = some s →
      ∃ t, rs[j]? = some t ∧ t.name = s.name ∧ t.isLatest = s.isLatest := by
    intro j s hs
    rw [List.getElem?_set] at hs
    split at hs
    · rename_i hij
      subst hij
      split at hs
      · obtain rfl : p = s := Option.some_inj.1 hs
        exact ⟨r, hr, congrArg Imprint.name hm, hf⟩
      · simp at hs
    · exact ⟨s, hs, rfl, rfl⟩
  refine ⟨himp ▸ h.distinct, ?_, ?_⟩
  · intro j k s t hs ht hn hsf htf
    obtain ⟨s', hs', hsn, hsl⟩ := hback hs
    obtain ⟨t', ht', htn, htl⟩ := hback ht
    exact h.single hs' ht' (by rw [hsn, htn, hn]) (by rw [hsl, hsf]) (by rw [htl, htf])
  · intro m hmem
    rw [himp] at hmem
    obtain ⟨l, hl, hln, hlf, hlm⟩ := h.led m hmem
    obtain ⟨j, hj⟩ := List.mem_iff_getElem?.1 hl
    by_cases hij : i = j
    · subst hij
      obtain rfl : r = l := Option.some_inj.1 (hr ▸ hj)
      refine ⟨p, ?_, (congrArg Imprint.name hm).symm.trans hln, hf.symm.trans hlf, hm ▸ hlm⟩
      exact List.mem_iff_getElem?.2
        ⟨i, List.getElem?_set_self (List.getElem?_eq_some_iff.1 hr).1⟩
    · refine ⟨l, List.mem_iff_getElem?.2 ⟨j, ?_⟩, hln, hlf, hlm⟩
      rw [List.getElem?_set_ne hij, hj]

end Orderly

/-! ### Seen from outside -/

/-- The records of a name: they share an identity that no other name has, no two of them have the same
version string, exactly one is flagged, and that one is at least as high as every other. -/
structure WellKept (rs : List Record) (name : String) : Prop where
  identity : ∃ id, ∀ r ∈ rs, r.name = name ↔ r.id = id
  versions : ((rs.filter fun r => r.name = name).map Record.version).Nodup
  latest : ∃ l, (rs.filter fun r => r.name = name && r.isLatest) = [l] ∧
    ∀ r ∈ rs, r.name = name → (Version.order l.version l.publishedAt r.version r.publishedAt).isGE

/-- If a test holds in one place of a list only, filtering leaves what stands there. -/
theorem filter_eq_singleton {α : Type} {test : α → Bool} {as : List α} {i : Nat} {a : α}
    (hi : as[i]? = some a) (ha : test a = true)
    (honly : ∀ j b, as[j]? = some b → test b = true → j = i) : as.filter test = [a] := by
  -- the one place is the head, and the rest is empty, or it is in the rest
  induction as generalizing i with
  | nil => simp at hi
  | cons b bs ih =>
      cases i with
      | zero =>
          obtain rfl : b = a := by simpa using hi
          have hnil : bs.filter test = [] := by
            refine List.filter_eq_nil_iff.2 ?_
            intro c hc htest
            obtain ⟨j, hj⟩ := List.mem_iff_getElem?.1 hc
            have := honly (j + 1) c (by simpa using hj) htest
            omega
          rw [List.filter_cons_of_pos ha, hnil]
      | succ i =>
          have hb : ¬test b = true := fun hb => by
            have := honly 0 b rfl hb
            omega
          rw [List.filter_cons_of_neg hb]
          refine ih (by simpa using hi) ?_
          intro j c hj hc
          have := honly (j + 1) c (by simpa using hj) hc
          omega

/-- **Orderly records are well kept** under each name that has a record. -/
theorem Orderly.wellKept (h : Orderly rs) {r : Record} (hr : r ∈ rs) : WellKept rs r.name where
  identity := ⟨r.id, fun s hs => h.identity hs hr⟩
  versions := by
    refine List.pairwise_map.2 ?_
    have hpair : rs.Pairwise fun s t => s.name = t.name → s.version ≠ t.version := by
      refine List.pairwise_iff_getElem.2 ?_
      intro i j hi hj hij hn hv
      have := h.distinct.versions (i := i) (j := j) (a := rs[i].imprint) (b := rs[j].imprint)
        (by simp [hi]) (by simp [hj]) hn hv
      omega
    refine (hpair.filter _).imp_of_mem ?_
    intro s t hs ht hne
    have hsn := (List.mem_filter.1 hs).2
    have htn := (List.mem_filter.1 ht).2
    simp only [decide_eq_true_eq] at hsn htn
    exact hne (hsn.trans htn.symm)
  latest := by
    obtain ⟨l, hl, hln, hlf, -⟩ := h.led r.imprint (List.mem_map_of_mem hr)
    obtain ⟨i, hi⟩ := List.mem_iff_getElem?.1 hl
    refine ⟨l, ?_, ?_⟩
    · refine filter_eq_singleton hi (by simpa [hlf] using hln) ?_
      intro j s hj hs
      simp only [Bool.and_eq_true, decide_eq_true_eq] at hs
      exact h.single hj hi (hs.1.trans hln.symm) hs.2 hlf
    · intro s hs hn
      obtain ⟨l', hl', hln', hlf', hls⟩ := h.led s.imprint (List.mem_map_of_mem hs)
      obtain rfl := h.eq_of_isLatest hl hl' (by rw [hln, hln']; exact hn.symm) hlf hlf'
      exact hls

end ManifestRegistry
