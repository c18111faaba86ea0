/-
**Listings that differ in numbers only.**

Two stores may list the same under a filter although they have numbered it differently.  Who reads both, page
by page, gets the same pages then: the cursors differ, but each of them stands behind as many entries, and
there is one in both stores or in neither.

Main definitions:

* `Storage.Level` — two cursors at the same place of a listing, and how much is left behind them.

Main results:

* `Storage.listing_behind` — the page behind what was read is told by the rest;
* `Storage.Level.page` — **the pages behind such cursors show the same**, and so do those after them.
-/

import ManifestRegistry.Proofs.Service.Passing

set_option relaxedAutoImplicit false
set_option autoImplicit false

namespace ManifestRegistry

namespace Storage

variable {es es' done done' rest rest' : List Entry} {limit : Nat}

/-- The page behind what was read is told by the rest. -/
theorem listing_behind (h : Page.Ascending (done ++ rest)) (limit : Nat) :
    listing (done ++ rest) (Page.after done) limit = match readAll (rest.take limit) with
      | .ok as => .ok (Page.ofSequenced as limit)
      | .error e => refuse e := by
  have hbound : ∀ a ∈ done, a.1 ≤ Cursor.limit := fun a ha => h.bounded a (List.mem_append_left _ ha)
  rw [listing, Page.start?_after_of_bounded hbound]
  show (match readAll (((done ++ rest).filter fun e => Page.isBehind (Page.last? done) e.1).take limit) with
    | .ok as => .ok (Page.ofSequenced as limit)
    | .error e => refuse e : Reply (Page Record)) = _
  rw [Page.filter_isBehind h.sorted]

/-- Whether entries can be read, and as what, does not depend on their numbers. -/
theorem readAll_level (h : es.map Prod.snd = es'.map Prod.snd) :
    (∃ e, readAll es = .error e ∧ readAll es' = .error e) ∨
      ∃ as as', readAll es = .ok as ∧ readAll es' = .ok as' ∧ as.map Prod.snd = as'.map Prod.snd := by
  induction es generalizing es' with
  | nil =>
      obtain rfl := List.map_eq_nil_iff.1 h.symm
      exact .inr ⟨[], [], rfl, rfl, rfl⟩
  | cons a es ih =>
      cases es' with
      | nil => cases h
      | cons a' es' =>
          obtain ⟨n, read⟩ := a
          obtain ⟨n', read'⟩ := a'
          obtain ⟨rfl, hrest⟩ := List.cons.inj h
          cases read with
          | error e => exact .inl ⟨e, rfl, rfl⟩
          | ok x =>
              rcases ih hrest with ⟨e, he, he'⟩ | ⟨as, as', has, has', hsame⟩
              · exact .inl ⟨e, by simp [readAll, he, bind, Except.bind],
                  by simp [readAll, he', bind, Except.bind]⟩
              · refine .inr ⟨(n, x) :: as, (n', x) :: as', ?_, ?_, ?_⟩
                · simp [readAll, has, bind, Except.bind]
                · simp [readAll, has', bind, Except.bind]
                · rw [List.map_cons, List.map_cons, hsame]

variable {σ : Type} [Store σ] [Catalog σ] {s s' : σ} {filter : Filter} {left : Nat}
  {cursor cursor' : Option String}

/-- Two cursors stand behind as many entries of two listings, with the same left behind them. -/
def Level (s s' : σ) (filter : Filter) (left : Nat) (cursor cursor' : Option String) : Prop :=
  ∃ done rest done' rest', Catalog.selected s filter = done ++ rest ∧
    Catalog.selected s' filter = done' ++ rest' ∧ cursor = Page.after done ∧ cursor' = Page.after done' ∧
    rest.map Prod.snd = rest'.map Prod.snd ∧ rest.length = left

/-- Listings that are the same but for numbers are level at the beginning. -/
theorem Level.start (h : (Catalog.selected s filter).map Prod.snd =
    (Catalog.selected s' filter).map Prod.snd) :
    Level s s' filter (Catalog.selected s filter).length none none :=
  ⟨[], _, [], _, rfl, rfl, rfl, rfl, h, rfl⟩

theorem Catalog.Calm.ascending_selected (h : Catalog.Calm s) (filter : Filter) :
    Page.Ascending (Catalog.selected s filter) :=
  ⟨Catalog.ascending s filter, h.bounded filter⟩

/-- **The pages behind cursors that are level show the same**, and behind both there is nothing, or cursors
that are level again. -/
theorem Level.page (h : Level s s' filter left cursor cursor') (hs : Catalog.Calm s)
    (hs' : Catalog.Calm s') (hlimit : 0 < limit) (now : Instant) :
    (∃ stop, (Store.call (.list filter cursor limit) now s).1 = .error stop ∧
      (Store.call (.list filter cursor' limit) now s').1 = .error stop) ∨
    ∃ page page' : Page Record, (Store.call (.list filter cursor limit) now s).1 = .ok page ∧
      (Store.call (.list filter cursor' limit) now s').1 = .ok page' ∧ page.items = page'.items ∧
      ((page.nextCursor = none ∧ page'.nextCursor = none) ∨
        ∃ after after' left', page.nextCursor = some after ∧ page'.nextCursor = some after' ∧
          left' < left ∧ Level s s' filter left' (some after) (some after')) := by
  obtain ⟨done, rest, done', rest', hsel, hsel', rfl, rfl, hsame, rfl⟩ := h
  have hasc := hs.ascending_selected filter
  have hasc' := hs'.ascending_selected filter
  rw [hsel] at hasc
  rw [hsel'] at hasc'
  rw [Catalog.call_list hs.isOpen, Catalog.call_list hs'.isOpen, hsel, hsel', listing_behind hasc,
    listing_behind hasc']
  have htake : (rest.take limit).map Prod.snd = (rest'.take limit).map Prod.snd := by
    rw [List.map_take, List.map_take, hsame]
  have hdrop : (rest.drop limit).map Prod.snd = (rest'.drop limit).map Prod.snd := by
    rw [List.map_drop, List.map_drop, hsame]
  have hlen := congrArg List.length hsame
  rw [List.length_map, List.length_map] at hlen
  rcases readAll_level htake with ⟨e, he, he'⟩ | ⟨as, as', has, has', hitems⟩
  · rw [he, he']
    exact .inl ⟨_, rfl, rfl⟩
  · rw [has, has']
    refine .inr ⟨_, _, rfl, rfl, ?_, ?_⟩
    · rw [Page.items_ofSequenced, Page.items_ofSequenced, hitems]
    rw [← nextCursor_shown as, ← nextCursor_shown as', ← readAll_eq_ok.1 has, ← readAll_eq_ok.1 has']
    -- a page is full in both stores or in neither
    have hfull : (Page.ofSequenced (rest.take limit) limit).nextCursor.isSome ↔
        (Page.ofSequenced (rest'.take limit) limit).nextCursor.isSome := by
      rw [Page.nextCursor_ofSequenced_isSome, Page.nextCursor_ofSequenced_isSome, List.length_take,
        List.length_take, hlen]
    rcases Page.turned done hlimit with ⟨after, hafter, hnext, hless⟩ | ⟨hnext, -⟩
    · rcases Page.turned done' hlimit with ⟨after', hafter', hnext', -⟩ | ⟨hnext', -⟩
      · refine .inr ⟨after, after', (rest.drop limit).length, hnext, hnext', hless, done ++ rest.take limit,
          rest.drop limit, done' ++ rest'.take limit, rest'.drop limit, ?_, ?_, hafter.symm,
          hafter'.symm, hdrop, rfl⟩
        · rw [hsel, List.append_assoc, List.take_append_drop]
        · rw [hsel', List.append_assoc, List.take_append_drop]
      · rw [hnext, hnext'] at hfull
        cases hfull.1 rfl
    · rw [hnext] at hfull ⊢
      exact .inl ⟨rfl, Option.not_isSome_iff_eq_none.1 fun hsome => nomatch hfull.2 hsome⟩

end Storage

end ManifestRegistry
