/-
**The leading version of a list.**

Version strings with their times of publication fall into three classes: semantic versions on top, other
strings below them and the empty string at the bottom.  Within a class another rule decides each time, and
still the whole is a total preorder.  Taking over is then a strict weak order, and going through a list and
letting each version take over that is above the one before leads to a version that none of the list is
above, in whichever order the list is gone through.

Main definitions:

* `Version.Above` — one published version takes over from another;
* `Version.leading` — **the version that is left when a list has been gone through**.

Main results:

* `Version.leading_mem`, `Version.leading_isGE` — the leading version is a greatest one of the list;
* `Version.leading_perm` — lists of the same versions have leading versions that tie;
* `Version.order_ranks_publications` — **published versions are totally preordered by class, and every list
  of them has a leading one**.
-/

import Mathlib.Order.Defs.Unbundled
import ManifestRegistry.Proofs.Version.Preorder

set_option relaxedAutoImplicit false
set_option autoImplicit false

namespace ManifestRegistry

open Std

namespace Version

/-! ### Classes -/

theorem rank_of_not_isSemantic {a : String} (hne : a ≠ "") (h : isSemantic a = false) (s : Instant) :
    rank a s = .other s := by
  have hempty : a.isEmpty = false := Bool.eq_false_iff.2 fun he => hne (String.isEmpty_iff.1 he)
  rw [rank, hempty, Option.not_isSome_iff_eq_none.1 (Bool.eq_false_iff.1 h)]
  rfl

/-- Semantic versions are above other strings, and other strings are above the empty one. -/
theorem order_of_classes {a b : String} (ha : isSemantic a) (hne : b ≠ "") (hb : isSemantic b = false)
    (s t u : Instant) : order a s b t = .gt ∧ order b t "" u = .gt := by
  obtain ⟨v, hv⟩ := Option.isSome_iff_exists.1 ha
  rw [order, order, rank_of_parse? hv, rank_of_not_isSemantic hne hb]
  exact ⟨rfl, rfl⟩

/-! ### Ties -/

theorem order_self (a : String) (s : Instant) : order a s a s = .eq :=
  @ReflCmp.compare_self _ Rank.order _ _

theorem order_trans_outcome {a b c : String} {s t u : Instant} {o : Ordering} (hab : order a s b t = o)
    (hbc : order b t c u = o) : order a s c u = o := by
  cases o with
  | lt => exact @TransCmp.lt_trans _ Rank.order _ _ _ _ hab hbc
  | eq => exact @TransCmp.eq_trans _ Rank.order _ _ _ _ hab hbc
  | gt => exact @TransCmp.gt_trans _ Rank.order _ _ _ _ hab hbc

theorem order_congr {a b : String} {s t : Instant} (h : order a s b t = .eq) (c : String) (u : Instant) :
    order a s c u = order b t c u ∧ order c u a s = order c u b t :=
  ⟨@TransCmp.congr_left _ Rank.order _ _ _ _ h, @TransCmp.congr_right _ Rank.order _ _ _ _ h⟩

/-! ### Taking over -/

/-- One published version takes over from another. -/
def Above (x y : String × Instant) : Prop := supersedes x.1 x.2 y.1 y.2 = true

instance : DecidableRel Above := fun x y => inferInstanceAs (Decidable (supersedes x.1 x.2 y.1 y.2 = true))

theorem above_iff {x y : String × Instant} : Above x y ↔ order x.1 x.2 y.1 y.2 = .gt := by
  rw [Above, supersedes, decide_eq_true_eq]

theorem not_above_iff {x y : String × Instant} :
    ¬Above x y ∧ ¬Above y x ↔ order x.1 x.2 y.1 y.2 = .eq := by
  rw [above_iff, above_iff, ← order_swap x.1 x.2 y.1 y.2]
  cases order x.1 x.2 y.1 y.2 <;> decide

/-- **Taking over is a strict weak order.** -/
theorem isStrictWeakOrder_above : IsStrictWeakOrder (String × Instant) Above where
  irrefl x h := by
    rw [above_iff, order_self] at h
    cases h
  trans x y z hxy hyz := above_iff.2 (order_trans_outcome (above_iff.1 hxy) (above_iff.1 hyz))
  incomp_trans x y z hxy hyz :=
    not_above_iff.2 (order_trans_outcome (not_above_iff.1 hxy) (not_above_iff.1 hyz))

/-! ### Going through a list -/

/-- The current version, or the candidate if that takes over. -/
def takeover (current candidate : String × Instant) : String × Instant :=
  if Above candidate current then candidate else current

/-- The version that is left when each of a list has been a candidate in turn. -/
def leading (current : String × Instant) (candidates : List (String × Instant)) : String × Instant :=
  candidates.foldl takeover current

theorem takeover_mem (x y : String × Instant) : takeover x y = x ∨ takeover x y = y := by
  rw [takeover]
  split
  · exact .inr rfl
  · exact .inl rfl

/-- Whichever is left is at least as high as both. -/
theorem takeover_isGE (x y : String × Instant) :
    (order (takeover x y).1 (takeover x y).2 x.1 x.2).isGE ∧
      (order (takeover x y).1 (takeover x y).2 y.1 y.2).isGE := by
  rw [takeover]
  split
  · next h => exact ⟨isGE_of_supersedes h, order_self_isGE _ _⟩
  · next h => exact ⟨order_self_isGE _ _, isGE_of_not_supersedes (Bool.eq_false_iff.2 h)⟩

theorem leading_mem (x : String × Instant) (xs : List (String × Instant)) :
    leading x xs ∈ x :: xs := by
  induction xs generalizing x with
  | nil => exact List.mem_singleton_self x
  | cons y ys ih =>
      have h : leading x (y :: ys) ∈ takeover x y :: ys := ih (takeover x y)
      obtain h | h := List.mem_cons.1 h
      · rw [h]
        obtain hx | hy := takeover_mem x y
        · rw [hx]
          exact List.mem_cons_self
        · rw [hy]
          exact List.mem_cons_of_mem _ List.mem_cons_self
      · exact List.mem_cons_of_mem _ (List.mem_cons_of_mem _ h)

/-- **The leading version is at least as high as each of the list.** -/
theorem leading_isGE (x : String × Instant) (xs : List (String × Instant)) :
    ∀ y ∈ x :: xs, (order (leading x xs).1 (leading x xs).2 y.1 y.2).isGE := by
  induction xs generalizing x with
  | nil =>
      intro y hy
      rw [List.mem_singleton.1 hy]
      exact order_self_isGE _ _
  | cons z zs ih =>
      intro y hy
      have hrest : ∀ w ∈ takeover x z :: zs,
          (order (leading x (z :: zs)).1 (leading x (z :: zs)).2 w.1 w.2).isGE := ih (takeover x z)
      have hstep := hrest (takeover x z) List.mem_cons_self
      -- what has been passed is below what took over, and that is below what is left
      obtain rfl | hy := List.mem_cons.1 hy
      · exact order_trans hstep (takeover_isGE y z).1
      · obtain rfl | hy := List.mem_cons.1 hy
        · exact order_trans hstep (takeover_isGE x y).2
        · exact hrest y (List.mem_cons_of_mem _ hy)

/-- Lists of the same versions have leading versions that tie. -/
theorem leading_perm {x y : String × Instant} {xs ys : List (String × Instant)}
    (h : (x :: xs).Perm (y :: ys)) :
    order (leading x xs).1 (leading x xs).2 (leading y ys).1 (leading y ys).2 = .eq := by
  have hge := leading_isGE x xs (leading y ys) (h.mem_iff.2 (leading_mem y ys))
  have hle := leading_isGE y ys (leading x xs) (h.mem_iff.1 (leading_mem x xs))
  rw [← order_swap (leading x xs).1] at hle
  cases ho : order (leading x xs).1 (leading x xs).2 (leading y ys).1 (leading y ys).2 with
  | eq => rfl
  | lt => rw [ho] at hge; cases hge
  | gt => rw [ho] at hle; cases hle

/-- **Published versions are totally preordered by class, and every list of them has a leading one.** -/
theorem order_ranks_publications :
    (∀ a s, order a s a s = .eq) ∧
    (∀ a s b t, order b t a s = (order a s b t).swap) ∧
    (∀ a s b t c u, (order a s b t).isGE → (order b t c u).isGE → (order a s c u).isGE) ∧
    (∀ o a s b t c u, order a s b t = o → order b t c u = o → order a s c u = o) ∧
    (∀ a s b t, order a s b t = .eq →
      ∀ c u, order a s c u = order b t c u ∧ order c u a s = order c u b t) ∧
    (∀ a b, isSemantic a → b ≠ "" → isSemantic b = false →
      ∀ s t u, order a s b t = .gt ∧ order b t "" u = .gt) ∧
    IsStrictWeakOrder (String × Instant) Above ∧
    ∀ x xs, leading x xs ∈ x :: xs ∧
      (∀ y ∈ x :: xs, (order (leading x xs).1 (leading x xs).2 y.1 y.2).isGE) ∧
      ∀ y ys, (x :: xs).Perm (y :: ys) →
        order (leading x xs).1 (leading x xs).2 (leading y ys).1 (leading y ys).2 = .eq :=
  ⟨order_self, fun a s b t => (order_swap a s b t).symm,
    fun _ _ _ _ _ _ => order_trans, fun _ _ _ _ _ _ _ => order_trans_outcome, fun _ _ _ _ => order_congr,
    fun _ _ => order_of_classes, isStrictWeakOrder_above,
    fun x xs => ⟨leading_mem x xs, leading_isGE x xs, fun _ _ => leading_perm⟩⟩

/-- Two spellings of one release tie above a word, and each of them leads if it is met first. -/
theorem order_ranks_publications_spellings :
    let early : String × Instant := ("v1.0.0+linux", .epoch)
    let late : String × Instant := ("1.0.0", .epoch)
    let word : String × Instant := ("snapshot", .epoch)
    let empty : String × Instant := ("", .epoch)
    (isSemantic early.1 ∧ word.1 ≠ "" ∧ isSemantic word.1 = false ∧
      order early.1 early.2 late.1 late.2 = .eq ∧
      [empty, early, word, late].Perm [late, word, early, empty]) ∧
    order early.1 early.2 word.1 word.2 = .gt ∧ order word.1 word.2 empty.1 empty.2 = .gt ∧
    order late.1 late.2 word.1 word.2 = order early.1 early.2 word.1 word.2 ∧
    leading empty [early, word, late] = early ∧ leading late [word, early, empty] = late ∧
    order (leading empty [early, word, late]).1 (leading empty [early, word, late]).2
      (leading late [word, early, empty]).1 (leading late [word, early, empty]).2 = .eq := by
  intro early late word empty
  have hearly : isSemantic early.1 := by decide +kernel
  have hword : isSemantic word.1 = false := by decide +kernel
  have htie : order early.1 early.2 late.1 late.2 = .eq := by decide +kernel
  have hperm : [empty, early, word, late].Perm [late, word, early, empty] := (List.reverse_perm _).symm
  obtain ⟨-, -, -, -, hcongr, hclasses, -, hleading⟩ := order_ranks_publications
  have hgt := hclasses early.1 word.1 hearly (by decide) hword .epoch .epoch .epoch
  exact ⟨⟨hearly, by decide, hword, htie, hperm⟩, hgt.1, hgt.2,
    (hcongr _ _ _ _ htie _ _).1.symm, by decide +kernel, by decide +kernel,
    (hleading empty [early, word, late]).2.2 late [word, early, empty] hperm⟩

end Version

end ManifestRegistry
