/-
**Stores that make no conflicts up.**

A commit can be refused although nobody has done anything wrong: because the version exists, because what
it demotes is not the latest one any more, because the name has another owner or another latest version.
A candid store refuses for no other reason than that a plain list of its records would, it shows all
versions of a name to whoever asks for them, in the order in which they came, and reading is never a
conflict.  What it shows of a name changes only when a version of that name is committed.

Main definitions:

* `Storage.numbered` — the versions of a name with their sequence numbers;
* `Storage.Candid` — **a store that makes no conflicts up**.

Main results:

* `Storage.numbered_committed` — a commit leaves the versions of other names alone;
* `Storage.list_ne_conflict` — reading a page is never a conflict;
* the list store and the table are candid.
-/

import ManifestRegistry.Proofs.Storage.Agreement
import ManifestRegistry.Proofs.Storage.Listing

set_option relaxedAutoImplicit false
set_option autoImplicit false

namespace ManifestRegistry

namespace Storage

/-! ### The versions of a name -/

/-- The versions of a name with their sequence numbers. -/
def numbered (rs : List Record) (name : String) : List (Nat × Record) :=
  (Memory.sequenced rs).filter fun a => a.2.name = name

theorem map_snd_numbered (rs : List Record) (name : String) :
    (numbered rs name).map Prod.snd = rs.filter fun r => r.name = name :=
  Memory.map_snd_filter_sequenced rs fun r => r.name = name

/-- A filter does not notice what is put in place of something else that it does not let through. -/
theorem filter_set_of_not {α : Type} {test : α → Bool} {as : List α} {i : Nat} {a : α}
    (ha : test a = false) (hi : ∀ b, as[i]? = some b → test b = false) :
    (as.set i a).filter test = as.filter test := by
  induction as generalizing i with
  | nil => rfl
  | cons b as ih =>
      cases i with
      | zero =>
          have hb : test b = false := hi b rfl
          rw [List.set_cons_zero, List.filter_cons_of_neg (by simp [ha]),
            List.filter_cons_of_neg (by simp [hb])]
      | succ i =>
          have hrest : (as.set i a).filter test = as.filter test := ih hi
          rw [List.set_cons_succ, List.filter_cons, List.filter_cons, hrest]

theorem sequenced_set (rs : List Record) (i : Nat) (r : Record) :
    Memory.sequenced (rs.set i r) = (Memory.sequenced rs).set i (i + 1, r) := by
  refine List.ext_getElem? ?_
  intro k
  simp only [Memory.sequenced, List.getElem?_map, List.getElem?_zipIdx, List.getElem?_set,
    List.length_map, List.length_zipIdx]
  by_cases hik : i = k
  · subst hik
    by_cases hlt : i < rs.length
    · simp [hlt, Nat.add_comm]
    · simp [hlt]
  · simp [hik]

theorem sequenced_append (rs : List Record) (r : Record) :
    Memory.sequenced (rs ++ [r]) = Memory.sequenced rs ++ [(rs.length + 1, r)] := by
  simp [Memory.sequenced, List.zipIdx_append, Nat.add_comm]

/-- **A commit leaves the versions of other names alone.** -/
theorem numbered_committed {rs rs' : List Record} {record : Record} {previous : Option Record}
    (hd : Distinct (rs.map Record.imprint))
    (hp : ∀ d, previous = some d → d.imprint ∈ rs.map Record.imprint ∧ d.name = record.name)
    (hc : Memory.committed rs record previous = .ok rs') {name : String} (hne : record.name ≠ name) :
    numbered rs' name = numbered rs name := by
  obtain ⟨-, rs₁, hdem, hins⟩ := Memory.committed_eq_ok.1 hc
  obtain ⟨-, -, rfl⟩ := Memory.insert_eq_ok.1 hins
  have hadded : numbered (rs₁ ++ [record]) name = numbered rs₁ name := by
    rw [numbered, sequenced_append, List.filter_append,
      List.filter_cons_of_neg (by simpa using hne), List.filter_nil, List.append_nil]
    rfl
  rw [hadded]
  cases previous with
  | none =>
      obtain rfl : rs = rs₁ := Except.ok.inj hdem
      rfl
  | some d =>
      obtain ⟨i, s, hi, hs, -, rfl⟩ := Memory.demote_eq_ok.1 hdem
      obtain ⟨hmem, hdn⟩ := hp d rfl
      -- what is demoted stood in its place as a version of the same name
      have hsn : s.name = d.name := congrArg Imprint.name (hd.imprint_eq hi hs hmem)
      rw [numbered, sequenced_set]
      refine filter_set_of_not ?_ ?_
      · exact decide_eq_false (hdn ▸ hne)
      · intro b hb
        rw [Memory.sequenced, List.getElem?_map, List.getElem?_zipIdx, hs] at hb
        obtain rfl := Option.some_inj.1 hb
        exact decide_eq_false fun hn => hne (hdn.symm.trans (hsn.symm.trans hn))

/-! ### Candid stores -/

/-- A store that makes no conflicts up. -/
class Candid (σ : Type) [Store σ] [Ledger σ] [Catalog σ] : Prop where
  isOpen {s : σ} {rs : List Record} (hk : Ledger.Keeps s rs) : Catalog.IsOpen s
  /-- A listing by name shows all versions of the name, or what keeps it from reading them. -/
  named {s : σ} {rs : List Record} (hk : Ledger.Keeps s rs) (hr : ∀ r ∈ rs, r.IsDated)
    (name : String) : ∃ read : Record → Except StorageError Record,
      (∀ r ∈ rs, ∀ x, read r = .ok x → Shows (Ledger.Legible σ) x r) ∧
        Catalog.selected s { name := some name } =
          (numbered rs name).map fun a => (a.1, read a.2)
  /-- A commit that a list would carry out is carried out. -/
  accepts {s : σ} {rs rs' : List Record} {record : Record} {previous : Option Record}
    (hk : Ledger.Keeps s rs) (hd : Distinct (rs.map Record.imprint))
    (hp : ∀ d, previous = some d → d.imprint ∈ rs.map Record.imprint ∧ d.isLatest = false)
    (hc : Memory.committed rs record previous = .ok rs') (now : Instant) :
    (Store.call (.commit record previous) now s).1 = .ok record
  /-- Counting is never a conflict. -/
  count_ne_conflict {s : σ} {rs : List Record} (hk : Ledger.Keeps s rs) (subject : String)
    (hours : Nat) (now : Instant) (reason : String) :
    (Store.call (.countRecent subject hours) now s).1 ≠ refuse (.conflict reason)

/-- **Reading a page is never a conflict.** -/
theorem list_ne_conflict {σ : Type} [Store σ] [Catalog σ] {s : σ} (hopen : Catalog.IsOpen s)
    (filter : Filter) (cursor : Option String) (limit : Nat) (now : Instant) (reason : String) :
    (Store.call (.list filter cursor limit) now s).1 ≠ refuse (.conflict reason) := by
  rw [Catalog.call_list hopen]
  intro h
  rcases listing_eq_error h with ⟨e, hstart, he⟩ | ⟨n, e, hmem, he⟩
  · obtain rfl := Stop.failed.inj he
    obtain ⟨raw, hraw⟩ := Page.start?_eq_error hstart
    cases hraw
  · obtain rfl := Stop.failed.inj he
    obtain ⟨cause, hcause⟩ := Catalog.unreadable hmem
    cases hcause

theorem selects_name (name : String) (r : Record) :
    ({ name := some name } : Filter).selects r = decide (r.name = name) := by
  simp [Filter.selects, Filter.holds]

/-- **The list store is candid.** -/
instance : Candid Memory where
  isOpen hk := hk.1
  named {m rs} hk _ name := by
    obtain ⟨-, rfl⟩ := hk
    refine ⟨.ok, ?_, ?_⟩
    · intro r _ x hx
      obtain rfl := Except.ok.inj hx
      exact .refl _
    · show ((Memory.sequenced m.records).filter fun a =>
        ({ name := some name } : Filter).selects a.2).map Entry.shown = _
      simp only [selects_name]
      rfl
  accepts {m rs rs' record previous} hk _ _ hc now := by
    obtain ⟨hopen, rfl⟩ := hk
    simp only [Store.call, Memory.commit_eq, hopen, Bool.false_eq_true, if_false, hc]
  count_ne_conflict {m rs} hk subject hours now reason := by
    simp only [Store.call, Memory.countRecent, hk.1, Bool.false_eq_true, if_false]
    cases now.minusHours? hours with
    | none => exact fun h => nomatch h
    | some since => exact fun h => nomatch h

theorem Rows.selectedBy_name (name : String) (row : Row) :
    row.selectedBy { name := some name } = decide (row.name = name) := by
  simp [Row.selectedBy, Filter.holds]

/-- **The table is candid.** -/
instance : Candid Rows where
  isOpen hk := hk.1
  named {t rs} hk hr name := by
    obtain ⟨-, hrows⟩ := hk
    refine ⟨fun r => (Row.ofRecord r).record?, ?_, ?_⟩
    · intro r hmem x hx
      exact Row.shows_of_record? (hr r hmem) hx
    · show ((Rows.sequenced t.rows).filter fun a => a.2.selectedBy { name := some name }).map
        (fun a => (a.1, a.2.record?)) = _
      simp only [Rows.selectedBy_name, hrows, Rows.sequenced_map, List.filter_map, List.map_map]
      rfl
  accepts {t rs rs' record previous} hk hd hp hc now := by
    obtain ⟨hopen, hrows⟩ := hk
    have hok := (Rows.committed_map hd hp).2 ⟨rs', hc, rfl⟩
    simp only [Store.call, Rows.commit, hopen, hrows, Bool.false_eq_true, if_false, hok, Rows.write]
  count_ne_conflict {t rs} hk subject hours now reason := by
    simp only [Store.call, Rows.countRecent, hk.1, Bool.false_eq_true, if_false]
    cases now.minusHours? hours with
    | none => exact fun h => nomatch h
    | some since => exact fun h => nomatch h

end Storage

end ManifestRegistry
