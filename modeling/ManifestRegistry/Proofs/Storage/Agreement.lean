/-
**A table answers like a list.**

As long as the documents in a table can be read back and its stamps are in the order of time, nobody who
asks can tell the table from a list of the same records: reading calls have the same answers, and
writing calls that the list lets through the table lets through as well, if they leave the latest flag
of stored versions to commits.

Main definitions:

* `Storage.Settled` — records that a table and a list keep alike;
* `Storage.Plain` — a call for which there is no difference;
* `Storage.Answers` — the answer of a list to such a call;
* `Storage.Exact` — **a store that gives the answers of a list**.

Main results:

* the list store and the table are exact.
-/

import ManifestRegistry.Proofs.Storage.Columns
import ManifestRegistry.Proofs.Storage.Rendering

set_option relaxedAutoImplicit false
set_option autoImplicit false

namespace ManifestRegistry

namespace Storage

/-- Records that a table and a list keep alike: orderly ones with instants in the era and bags that are
read back as they are. -/
structure Settled (legible : Bag → Prop) (rs : List Record) : Prop where
  orderly : Orderly rs
  dated : ∀ r ∈ rs, r.IsDated
  inEra : ∀ r ∈ rs, r.InEra
  legible : ∀ r ∈ rs, legible r.bag

theorem settled_nil (legible : Bag → Prop) : Settled legible [] where
  orderly := .nil
  dated _ h := by cases h
  inEra _ h := by cases h
  legible _ h := by cases h

theorem Settled.mono {legible legible' : Bag → Prop} {rs : List Record} (h : Settled legible rs)
    (himp : ∀ bag, legible bag → legible' bag) : Settled legible' rs :=
  ⟨h.orderly, h.dated, h.inEra, fun r hr => himp _ (h.legible r hr)⟩

/-- A call that a table answers like a list: the instants it compares have stamps in the order of time,
and what it puts in place of a stored version is a state of that version; a commit takes its flag away
and an update leaves it as it is. -/
def Plain (now : Instant) (rs : List Record) : Call → Prop
  | .list filter _ _ => ∀ since, filter.updatedSince = some since → since.IsReading ∧ since.InEra
  | .getById _ | .getVersion .. => True
  | .countRecent _ hours => ∀ since, now.minusHours? hours = some since →
      since.IsReading ∧ since.year ≤ 9999
  | .commit _ previous => ∀ p, previous = some p →
      p.imprint ∈ rs.map Record.imprint ∧ p.isLatest = false
  | .update id record => record.id = id ∧
      ∃ r ∈ rs, r.imprint = record.imprint ∧ r.isLatest = record.isLatest
  | .create _ | .close => False

/-- What a list of settled records answers to a plain call that goes through, and the records
afterwards. -/
structure Answers (legible : Bag → Prop) (now : Instant) (rs : List Record) (c : Call)
    (a : c.Answer) (rs' : List Record) : Prop where
  settled : Settled legible rs
  plain : Plain now rs c
  call : Store.call c now (Memory.mk rs false) = (.ok a, Memory.mk rs' false)

theorem Answers.mono {legible legible' : Bag → Prop} {now : Instant} {rs rs' : List Record} {c : Call}
    {a : c.Answer} (h : Answers legible now rs c a rs') (himp : ∀ bag, legible bag → legible' bag) :
    Answers legible' now rs c a rs' :=
  ⟨h.settled.mono himp, h.plain, h.call⟩

/-- A store that gives the answers of a list. -/
class Exact (σ : Type) [Store σ] [Ledger σ] : Prop where
  call {s : σ} {rs rs' : List Record} {c : Call} {a : c.Answer} {now : Instant}
    (hk : Ledger.Keeps s rs) (h : Answers (Ledger.Legible σ) now rs c a rs') :
    (Store.call c now s).1 = .ok a ∧ Ledger.Keeps (Store.call c now s).2 rs'
  size {s : σ} {rs : List Record} (hk : Ledger.Keeps s rs) : rs.length ≤ Store.size s

instance : Exact Memory where
  call {m rs rs' c a now} hk h := by
    obtain ⟨records, closed⟩ := m
    obtain ⟨rfl, rfl⟩ : closed = false ∧ records = rs := hk
    rw [h.call]
    exact ⟨rfl, rfl, rfl⟩
  size {m rs} hk := by
    obtain ⟨-, rfl⟩ := hk
    exact Nat.le_refl _

namespace Rows

variable {rs : List Record}

/-! ### Reading -/

variable (h : Settled Bag.Lossless rs)
include h

theorem record?_of_settled {r : Record} (hr : r ∈ rs) : (Row.ofRecord r).record? = .ok r := by
  have hsame : r.bag.reread = .ok r.bag := h.legible r hr
  rw [Row.record?_ofRecord (h.dated r hr), hsame]

theorem intact_of_settled : Intact rs := fun _ hr => record?_of_settled h hr

/-- **Listings of a table are those of a list.** -/
theorem list_eq {filter : Filter}
    (hf : ∀ since, filter.updatedSince = some since → since.IsReading ∧ since.InEra)
    (cursor : Option String) (limit : Nat) :
    list ⟨rs.map Row.ofRecord, false⟩ filter cursor limit =
      Memory.list ⟨rs, false⟩ filter cursor limit := by
  have hpicked : picked rs filter = (Memory.sequenced rs).filter fun a => filter.selects a.2 := by
    refine List.filter_congr fun a ha => ?_
    have hr := Memory.snd_mem_of_mem_sequenced ha
    rw [Row.selectedBy_ofRecord (h.dated _ hr) (h.inEra _ hr)
      (Row.isTangled_of_read rfl (record?_of_settled h hr)) hf]
  have hlist := Catalog.call_list (s := (⟨rs, false⟩ : Memory)) rfl filter cursor limit .epoch
  rw [(intact_of_settled h).renders.list, hpicked]
  exact (congrArg Prod.fst hlist).symm

theorem getVersion_eq (id : Uuid) (version : String) :
    getVersion ⟨rs.map Row.ofRecord, false⟩ id version = Memory.getVersion ⟨rs, false⟩ id version :=
  (intact_of_settled h).renders.getVersion id version

theorem flagged_eq (id : Uuid) : ∃ flagged : Option Record,
    (rs.filter fun r => r.id = id).filter Record.isLatest = flagged.toList := by
  cases hfilter : (rs.filter fun r => r.id = id).filter Record.isLatest with
  | nil => exact ⟨none, rfl⟩
  | cons l ls =>
      have hmem : l ∈ (rs.filter fun r => r.id = id).filter Record.isLatest :=
        hfilter ▸ List.mem_cons_self
      obtain ⟨hl, hid⟩ := List.mem_filter.1 (List.mem_filter.1 hmem).1
      obtain ⟨l', hone, -⟩ := (h.orderly.wellKept hl).latest
      refine ⟨some l', ?_⟩
      rw [← hfilter, List.filter_filter, Option.toList_some, ← hone]
      refine List.filter_congr ?_
      intro r hr
      rw [Bool.and_comm]
      congr 1
      exact decide_eq_decide.2 (of_decide_eq_true hid ▸ (h.orderly.identity hr hl).symm)

theorem getById_eq (id : Uuid) :
    getById ⟨rs.map Row.ofRecord, false⟩ id = Memory.getById ⟨rs, false⟩ id := by
  obtain ⟨flagged, hflagged⟩ := flagged_eq h id
  have hfind : (rs.filter fun r => r.id = id).find? Record.isLatest = flagged := by
    rw [← List.head?_filter, hflagged, Option.head?_toList]
  have hlast : flagged.toList.getLast? = flagged := by cases flagged <;> rfl
  -- the table takes the last flagged row and the list the first one, but there is only one
  rw [(intact_of_settled h).renders.getById, newest?, hflagged, hlast]
  simp only [Memory.getById, Bool.false_eq_true, if_false, hfind]

/-- **Counts of a table are those of a list.** -/
theorem countRecent_eq {now : Instant} {hours : Nat}
    (hn : ∀ since, now.minusHours? hours = some since → since.IsReading ∧ since.year ≤ 9999)
    (subject : String) :
    countRecent ⟨rs.map Row.ofRecord, false⟩ now subject hours =
      Memory.countRecent ⟨rs, false⟩ now subject hours := by
  unfold countRecent Memory.countRecent
  cases hsince : now.minusHours? hours with
  | none => rfl
  | some since =>
      obtain ⟨hread, hyear⟩ := hn since hsince
      simp only [Bool.false_eq_true, if_false]
      rw [List.countP_map]
      refine congrArg Except.ok (List.countP_congr fun r hr => ?_)
      rw [Function.comp_apply, countsFor_ofRecord (h.dated r hr) (h.inEra r hr).published hread hyear]

/-! ### Writing -/

theorem commit_eq {record a : Record} {previous : Option Record} {rs' : List Record}
    (hp : ∀ p, previous = some p → p.imprint ∈ rs.map Record.imprint ∧ p.isLatest = false)
    (hok : Memory.commit ⟨rs, false⟩ record previous = (.ok a, ⟨rs', false⟩)) :
    commit ⟨rs.map Row.ofRecord, false⟩ record previous =
      (.ok a, ⟨rs'.map Row.ofRecord, false⟩) := by
  simp only [Memory.commit_eq, Bool.false_eq_true, if_false] at hok
  cases hres : Memory.committed rs record previous with
  | error e => simp [hres, refuse] at hok
  | ok records =>
      simp only [hres, Prod.mk.injEq, Except.ok.injEq, Memory.mk.injEq, and_true] at hok
      obtain ⟨rfl, rfl⟩ := hok
      have hrows := (committed_map h.orderly.distinct hp).2 ⟨records, hres, rfl⟩
      simp only [commit, Bool.false_eq_true, if_false, hrows, write]

theorem update_eq {record a : Record} {rs' : List Record}
    (hsame : ∃ r ∈ rs, r.imprint = record.imprint ∧ r.isLatest = record.isLatest)
    (hok : Memory.update ⟨rs, false⟩ record.id record = (.ok a, ⟨rs', false⟩)) :
    update ⟨rs.map Row.ofRecord, false⟩ record.id record =
      (.ok a, ⟨rs'.map Row.ofRecord, false⟩) := by
  obtain ⟨r, hr, himp, hflag⟩ := hsame
  have hv : r.isVersion record.id record.version = true :=
    Record.isVersion_iff.2 ⟨congrArg Imprint.id himp, congrArg Imprint.version himp⟩
  obtain ⟨i, hi, hj⟩ := h.orderly.distinct.exists_place hr hv
  have hany : (rs.map Row.ofRecord).any (fun row => row.isVersion record.id record.version) = true := by
    rw [List.any_map, List.any_eq_true]
    exact ⟨r, hr, hv⟩
  -- the one flagged record of the name is the version itself
  have hrows := (reviseAll_map h.orderly.distinct (himp ▸ List.mem_map_of_mem hr) hi).2
    ⟨rfl, fun hl k s hs hn hsl => h.orderly.single hs hj
      (hn.trans (congrArg Imprint.name himp).symm) hsl (hflag.trans hl)⟩
  simp only [Memory.update, Bool.false_eq_true, if_false, hi, Prod.mk.injEq, Except.ok.injEq,
    Memory.mk.injEq, and_true] at hok
  obtain ⟨rfl, rfl⟩ := hok
  simp only [update, Bool.false_eq_true, if_false, hany, if_true, hrows, write]

/-- **The table is exact.** -/
instance : Exact Rows where
  call {t rs rs' c a now} hk h := by
    obtain ⟨rows, closed⟩ := t
    obtain ⟨rfl, rfl⟩ : closed = false ∧ rows = rs.map Row.ofRecord := hk
    obtain ⟨hs, hplain, hcall⟩ := h
    have hread : ∀ {reply : Reply c.Answer},
        (reply, Memory.mk rs false) = (.ok a, Memory.mk rs' false) →
        reply = .ok a ∧ rs = rs' := by
      intro reply he
      obtain ⟨hreply, hm⟩ := Prod.mk.inj he
      exact ⟨hreply, congrArg Memory.records hm⟩
    cases c with
    | list filter cursor limit =>
        obtain ⟨hreply, rfl⟩ := hread hcall
        exact ⟨(list_eq hs hplain cursor limit).trans hreply, rfl, rfl⟩
    | getById id =>
        obtain ⟨hreply, rfl⟩ := hread hcall
        exact ⟨(getById_eq hs id).trans hreply, rfl, rfl⟩
    | getVersion id version =>
        obtain ⟨hreply, rfl⟩ := hread hcall
        exact ⟨(getVersion_eq hs id version).trans hreply, rfl, rfl⟩
    | countRecent subject hours =>
        obtain ⟨hreply, rfl⟩ := hread hcall
        exact ⟨(countRecent_eq hs hplain subject).trans hreply, rfl, rfl⟩
    | commit record previous =>
        have hrows : Store.call (.commit record previous) now ⟨rs.map Row.ofRecord, false⟩ =
            (.ok a, Rows.mk (rs'.map Row.ofRecord) false) := commit_eq hs hplain hcall
        rw [hrows]
        exact ⟨rfl, rfl, rfl⟩
    | update id record =>
        obtain ⟨rfl, hsame⟩ := hplain
        have hrows : Store.call (.update record.id record) now ⟨rs.map Row.ofRecord, false⟩ =
            (.ok a, Rows.mk (rs'.map Row.ofRecord) false) := update_eq hs hsame hcall
        rw [hrows]
        exact ⟨rfl, rfl, rfl⟩
    | create _ | close => exact hplain.elim
  size {t rs} hk := by
    obtain ⟨-, hrows⟩ := hk
    have hlen : rs.length = t.rows.length := by rw [hrows, List.length_map]
    exact Nat.le_of_eq hlen

end Rows

end Storage

end ManifestRegistry
