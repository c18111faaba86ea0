/-
**A commit made of two writes.**

A store without atomic commits first adds the new version, without its flag so that it does not meet a
second flagged one, then puts the flag back, and at last demotes the previous latest version.  A list of
records demotes first and adds the new version in the end.  If the list carries a commit out, both come
to the same, since an identity and a version tell one record from all others: neither does the flag get to
another record than the new one, nor does the demotion.

Main definitions:

* `Storage.TwoWrite.Mirrors` — a two-write store that holds what a list holds;
* `Storage.TwoWrite.Matches` — an answer of both stores, of which one still mirrors the other;
* `Storage.Call.IsSingle` — a call that writes once at most.

Main results:

* `Storage.TwoWrite.matches_call` — a call that writes once at most is answered alike;
* `Storage.TwoWrite.matches_commit` — **so is a commit that a list carries out**.
-/

import ManifestRegistry.Proofs.Records.Orderly
import ManifestRegistry.Storage.TwoWrite

set_option relaxedAutoImplicit false
set_option autoImplicit false

namespace ManifestRegistry

namespace Storage

/-! ### Places -/

namespace Memory

variable {rs : List Record} {r : Record}

theorem place?_append {id : Uuid} {version : String} {i : Nat}
    (h : place? rs id version = some i) (r : Record) : place? (rs ++ [r]) id version = some i := by
  unfold place? at h ⊢
  rw [List.findIdx?_append, h, Option.some_or]

theorem place?_append_self {id : Uuid} {version : String}
    (h : ∀ s ∈ rs, s.isVersion id version = false) (hr : r.isVersion id version = true) :
    place? (rs ++ [r]) id version = some rs.length := by
  unfold place?
  rw [List.findIdx?_append, List.findIdx?_eq_none_iff.2 h, Option.none_or]
  simp [hr]

end Memory

/-- A call that writes once at most. -/
def Call.IsSingle : Call → Prop
  | .create _ | .commit .. => False
  | _ => True

namespace TwoWrite

/-- A two-write store that holds what a list holds, and lets demotions through. -/
structure Mirrors (t : TwoWrite) (m : Memory) : Prop where
  inner : t.inner = m
  lets : t.failDemotions = false

/-- What is answered in both stores is the same, and one still mirrors the other. -/
structure Matches {α : Type} (result : α × TwoWrite) (listed : α × Memory) : Prop where
  same : result.1 = listed.1
  mirrors : Mirrors result.2 listed.2

variable {t : TwoWrite} {m : Memory} {record : Record}

theorem matches_lift {α : Type} (h : Mirrors t m) (f : Memory → α × Memory) :
    Matches (lift f t) (f m) := by
  obtain ⟨rfl, hlets⟩ := h
  exact ⟨rfl, rfl, hlets⟩

/-- As long as demotions are let through, an update is one of the list. -/
theorem update_eq (h : t.failDemotions = false) (id : Uuid) (record : Record) :
    update id record t = lift (Memory.update · id record) t := by
  have hgo : (!record.isLatest && t.failDemotions) = false := by rw [h, Bool.and_false]
  unfold update
  simp only [bind, StateT.bind, getThe, MonadStateOf.get, StateT.get, get, pure, hgo]
  rfl

/-- **A call that writes once at most is answered alike.** -/
theorem matches_call (h : Mirrors t m) {c : Call} (hc : c.IsSingle) (now : Instant) :
    Matches (Store.call c now t) (Store.call c now m) := by
  cases c with
  | update id record =>
      show Matches (update id record t) (m.update id record)
      rw [update_eq h.lets]
      exact matches_lift h _
  | create | commit => exact hc.elim
  | _ => exact matches_lift h _

/-! ### Commits -/

/-- The store after a record was added behind all others. -/
def added (t : TwoWrite) (record : Record) : TwoWrite :=
  { t with
    inner := { t.inner with records := t.inner.records ++ [record] }
    creates := t.creates + 1 }

/-- **A record that is added gets its flag back**: of all records it alone is the version that it is. -/
theorem create_eq (hopen : t.inner.closed = false)
    (hversion : ∀ r ∈ t.inner.records, r.name = record.name → r.version ≠ record.version)
    (hnew : ∀ r ∈ t.inner.records, r.isVersion record.id record.version = false) :
    create record t = (.ok record, t.added record) := by
  let plain : Record :=
    { record with registration := { record.registration with isLatest := false } }
  have hinsert : Memory.insert t.inner.records plain = .ok (t.inner.records ++ [plain]) :=
    Memory.insert_eq_ok.2 ⟨hversion, nofun, rfl⟩
  have hcreate : Memory.create t.inner plain =
      (.ok plain, { t.inner with records := t.inner.records ++ [plain] }) := by
    simp only [Memory.create, hopen, Bool.false_eq_true, if_false, hinsert]
  have hmodify : ∀ f : TwoWrite → TwoWrite, (modify f : StateM TwoWrite PUnit) t = (⟨⟩, f t) :=
    fun _ => rfl
  unfold create
  simp only [bind, StateT.bind, hmodify, lift, pure]
  rw [hcreate]
  cases hflag : record.isLatest with
  | false =>
      have hplain : plain = record := by
        have hfalse : false = record.registration.isLatest := hflag.symm
        simp only [plain, hfalse]
      rw [hplain]
      rfl
  | true =>
      have hplace : Memory.place? (t.inner.records ++ [plain]) record.id record.version =
          some t.inner.records.length :=
        Memory.place?_append_self hnew (Record.isVersion_iff.2 ⟨rfl, rfl⟩)
      have hset : (t.inner.records ++ [plain]).set t.inner.records.length record =
          t.inner.records ++ [record] := by
        rw [List.set_append_right _ _ (Nat.le_refl _), Nat.sub_self, List.set_cons_zero]
      simp only [if_true, lift, Memory.update, hopen, Bool.false_eq_true, if_false, hplace, hset, added]

/-- **A commit that a list carries out comes to the same as two writes**, if no other name has the
identity and what is demoted is a stored version. -/
theorem matches_commit (h : Mirrors t m) (hopen : m.closed = false)
    (hd : Distinct (m.records.map Record.imprint)) {previous : Option Record}
    (hid : ∀ x ∈ m.records.map Record.imprint, x.id = record.id → x.name = record.name)
    (hp : ∀ d, previous = some d → d.imprint ∈ m.records.map Record.imprint) {rs' : List Record}
    (hc : Memory.committed m.records record previous = .ok rs') (now : Instant) :
    Matches (Store.call (.commit record previous) now t) (Store.call (.commit record previous) now m) := by
  obtain ⟨rfl, hlets⟩ := h
  have hlisted : Store.call (.commit record previous) now t.inner =
      (.ok record, { t.inner with records := rs' }) := by
    simp only [Store.call, Memory.commit_eq, hopen, Bool.false_eq_true, if_false, hc]
  obtain ⟨-, rs₁, hdem, hins⟩ := Memory.committed_eq_ok.1 hc
  obtain ⟨hversion₁, -, rfl⟩ := Memory.insert_eq_ok.1 hins
  -- the demotion changes no version, so the new one was not there before it either
  have hversion : ∀ r ∈ t.inner.records, r.name = record.name → r.version ≠ record.version := by
    intro r hr hname
    have hmem : r.imprint ∈ rs₁.map Record.imprint :=
      hd.map_imprint_demoted hp hdem ▸ List.mem_map_of_mem hr
    obtain ⟨s, hs, himp⟩ := List.mem_map.1 hmem
    have hsv := hversion₁ s hs ((congrArg Imprint.name himp).trans hname)
    exact fun hv => hsv ((congrArg Imprint.version himp).trans hv)
  have hnew : ∀ r ∈ t.inner.records, r.isVersion record.id record.version = false := by
    intro r hr
    refine Bool.eq_false_iff.2 fun hv => ?_
    obtain ⟨hrid, hrv⟩ := Record.isVersion_iff.1 hv
    exact hversion r hr (hid r.imprint (List.mem_map_of_mem hr) hrid) hrv
  have hcreate := create_eq hopen hversion hnew
  rw [hlisted]
  show Matches (twoWrites create update record previous t) _
  cases previous with
  | none =>
      obtain rfl : t.inner.records = rs₁ := Except.ok.inj hdem
      simp only [twoWrites, bind, StateT.bind, hcreate, pure]
      exact ⟨rfl, rfl, hlets⟩
  | some d =>
      obtain ⟨i, s, hplace, hs, -, rfl⟩ := Memory.demote_eq_ok.1 hdem
      have hlt : i < t.inner.records.length := (List.getElem?_eq_some_iff.1 hs).1
      have hupdate : update d.id d (t.added record) = (.ok d, { t.added record with
          inner := { t.inner with records := t.inner.records.set i d ++ [record] } }) := by
        have hlets' : (t.added record).failDemotions = false := hlets
        rw [update_eq hlets']
        simp only [lift, added, Memory.update, hopen, Bool.false_eq_true, if_false,
          Memory.place?_append hplace, List.set_append_left _ _ hlt]
      simp only [twoWrites, bind, StateT.bind, hcreate, hupdate, pure]
      exact ⟨rfl, rfl, hlets⟩

end TwoWrite

end Storage

end ManifestRegistry
