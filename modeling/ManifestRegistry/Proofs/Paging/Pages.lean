/-
**One page after the other.**

Numbered entries in ascending order are read page by page.  Wherever the reading has come to, the cursor
of the last entry read is the place to go on, and the next page begins with the first entry not read
yet.

Main definitions:

* `Page.Ascending` — entries whose numbers ascend and fit into cursors;
* `Page.after` — the cursor behind some entries; `Page.last?` — the number that they end with.

Main results:

* `Page.paginate_after` — **the page behind what was read is the beginning of the rest**;
* `Page.turned` — a page names the place behind it or is the last one;
* `Storage.Memory.ascending_sequenced` — the entries of a list of records ascend.
-/

import ManifestRegistry.Proofs.Paging.Cursors
import ManifestRegistry.Storage.Memory

set_option relaxedAutoImplicit false
set_option autoImplicit false

namespace ManifestRegistry

namespace Page

variable {α : Type} {rows done rest : List (Nat × α)}

/-- The numbers of entries ascend, and cursors can name them. -/
structure Ascending (rows : List (Nat × α)) : Prop where
  sorted : rows.Pairwise fun a b => a.1 < b.1
  bounded : ∀ a ∈ rows, a.1 ≤ Cursor.limit

theorem Ascending.filter (h : Ascending rows) (test : Nat × α → Bool) :
    Ascending (rows.filter test) where
  sorted := h.sorted.filter test
  bounded a ha := h.bounded a (List.mem_filter.1 ha).1

/-- The cursor to go on with behind some entries; none at the beginning. -/
def after (done : List (Nat × α)) : Option String :=
  done.getLast?.map fun a => (Cursor.mk a.1).encode

@[simp] theorem after_nil : after ([] : List (Nat × α)) = none := rfl

theorem after_append {page : List (Nat × α)} (h : page ≠ []) :
    after (done ++ page) = after page := by
  rw [after, after, List.getLast?_append, List.getLast?_eq_some_getLast h, Option.some_or]

theorem after_eq_some (h : done ≠ []) : ∃ cursor, after done = some cursor :=
  ⟨_, by rw [after, List.getLast?_eq_some_getLast h, Option.map_some]⟩

/-- The number that entries end with; none if there are none. -/
def last? (done : List (Nat × α)) : Option Nat := done.getLast?.map Prod.fst

theorem start?_after {start : Option Nat} (h : start? (after done) = .ok start) :
    start = last? done := by
  unfold after at h
  unfold last?
  cases hlast : done.getLast? with
  | none =>
      rw [hlast] at h
      exact (Except.ok.inj h).symm
  | some last =>
      rw [hlast, Option.map_some] at h
      exact eq_of_start?_encode h

theorem start?_after_of_bounded (h : ∀ a ∈ done, a.1 ≤ Cursor.limit) :
    start? (after done) = .ok (last? done) := by
  unfold after last?
  cases hlast : done.getLast? with
  | none => rfl
  | some last => exact start?_encode (h last (List.mem_of_getLast? hlast))

/-- Behind the first entries are the others. -/
theorem filter_isBehind (h : (done ++ rest).Pairwise fun a b => a.1 < b.1) :
    (done ++ rest).filter (fun a => isBehind (last? done) a.1) = rest := by
  unfold last?
  cases hlast : done.getLast? with
  | none =>
      obtain rfl := List.getLast?_eq_none_iff.1 hlast
      exact List.filter_eq_self.2 fun _ _ => rfl
  | some last =>
      obtain ⟨first, rfl⟩ := List.getLast?_eq_some_iff.1 hlast
      obtain ⟨hdone, -, hrest⟩ := List.pairwise_append.1 h
      have hbefore : (first ++ [last]).filter (fun a => isBehind (some last.1) a.1) = [] := by
        refine List.filter_eq_nil_iff.2 ?_
        intro a ha
        simp only [isBehind, decide_eq_true_eq, Nat.not_lt]
        rcases List.mem_append.1 ha with ha | ha
        · exact Nat.le_of_lt ((List.pairwise_append.1 hdone).2.2 a ha last (by simp))
        · obtain rfl := List.mem_singleton.1 ha
          exact Nat.le_refl _
      have hbehind : rest.filter (fun a => isBehind (some last.1) a.1) = rest := by
        refine List.filter_eq_self.2 ?_
        intro a ha
        exact decide_eq_true (hrest last (by simp) a ha)
      rw [Option.map_some, List.filter_append, hbefore, hbehind, List.nil_append]

/-- **The page behind what was read is the beginning of the rest.** -/
theorem paginate_after (h : Ascending (done ++ rest)) (limit : Nat) :
    paginate (done ++ rest) (after done) limit = .ok (ofSequenced (rest.take limit) limit) := by
  rw [paginate, start?_after_of_bounded fun a ha => h.bounded a (List.mem_append_left _ ha)]
  simp only [filter_isBehind h.sorted]

theorem le_length_of_nextCursor {limit : Nat} {cursor : String}
    (h : (ofSequenced (rest.take limit) limit).nextCursor = some cursor) : limit ≤ rest.length := by
  have hfull := (nextCursor_ofSequenced_isSome.1 (Option.isSome_iff_exists.2 ⟨cursor, h⟩)).2
  rw [List.length_take] at hfull
  omega

/-- A page that is full names the place behind it, and less is left there; one that is not is the last
one. -/
theorem turned (done : List (Nat × α)) {limit : Nat} (hl : 0 < limit) :
    (∃ cursor, after (done ++ rest.take limit) = some cursor ∧
      (ofSequenced (rest.take limit) limit).nextCursor = some cursor ∧
      (rest.drop limit).length < rest.length) ∨
    ((ofSequenced (rest.take limit) limit).nextCursor = none ∧ rest.drop limit = []) := by
  by_cases hfull : limit ≤ rest.length
  · left
    have hlen : (rest.take limit).length = limit := by
      rw [List.length_take]
      exact Nat.min_eq_left hfull
    have hne : rest.take limit ≠ [] := List.ne_nil_of_length_pos (by omega)
    obtain ⟨cursor, hcursor⟩ := after_eq_some hne
    refine ⟨cursor, (after_append hne).trans hcursor, ?_, ?_⟩
    · rw [ofSequenced, if_pos ⟨hl, hlen⟩]
      exact hcursor
    · rw [List.length_drop]
      omega
  · right
    refine ⟨?_, List.drop_of_length_le (by omega)⟩
    rw [ofSequenced, List.length_take, if_neg]
    omega

end Page

theorem Storage.pairwise_zipIdx {α : Type} (as : List α) (start : Nat) :
    ((as.zipIdx start).map fun (a, n) => (n, a)).Pairwise fun a b => a.1 < b.1 := by
  refine List.pairwise_map.2 (List.pairwise_iff_getElem.2 ?_)
  intro i j hi hj hij
  simp only [List.getElem_zipIdx]
  omega

namespace Storage.Memory

theorem pairwise_sequenced (rs : List Record) :
    (sequenced rs).Pairwise fun a b => a.1 < b.1 :=
  pairwise_zipIdx rs 1

theorem mem_sequenced {rs : List Record} {a : Nat × Record} :
    a ∈ sequenced rs ↔ ∃ i, a.1 = i + 1 ∧ rs[i]? = some a.2 := by
  constructor
  · intro h
    obtain ⟨⟨r, n⟩, hmem, rfl⟩ := List.mem_map.1 h
    obtain ⟨hle, hlt, hr⟩ := List.mem_zipIdx hmem
    refine ⟨n - 1, ?_, ?_⟩
    · show n = n - 1 + 1
      omega
    · rw [List.getElem?_eq_getElem (by omega)]
      exact congrArg some hr.symm
  · rintro ⟨i, hi, hr⟩
    refine List.mem_map.2 ⟨(a.2, i + 1), ?_, Prod.ext hi.symm rfl⟩
    exact List.mk_mem_zipIdx_iff_le_and_getElem?_sub.2 ⟨by omega, by rwa [Nat.add_sub_cancel]⟩

/-- The entries of a list of records ascend, if cursors can name them. -/
theorem ascending_sequenced {rs : List Record} (h : rs.length ≤ Cursor.limit) :
    Page.Ascending (sequenced rs) where
  sorted := pairwise_sequenced rs
  bounded a ha := by
    obtain ⟨⟨r, n⟩, hmem, rfl⟩ := List.mem_map.1 ha
    have hlt := (List.mem_zipIdx hmem).2.1
    show n ≤ Cursor.limit
    omega

theorem map_snd_filter_sequenced (rs : List Record) (test : Record → Bool) :
    ((sequenced rs).filter fun a => test a.2).map Prod.snd = rs.filter test := by
  have hfilter := List.filter_map (f := Prod.snd) (p := test) (l := sequenced rs)
  rw [map_snd_sequenced] at hfilter
  exact hfilter.symm

end Storage.Memory

end ManifestRegistry
