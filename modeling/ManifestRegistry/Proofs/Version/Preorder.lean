/-
**Published versions are totally preordered.**

The order of published versions compares ranks, and ranks are compared by cases whose parts are
orders themselves: numbers by value, words by their characters, lists of identifiers from left to
right, instants by time.  Each part is shown to be a total preorder, and so is the whole.  What the
registry relies on is transitivity: a version that took over from one that was at least as high as
all others is at least as high as all of them.

Main results:

* `Version.transCmp_precedence` — precedence of semantic versions is a total preorder;
* `Version.Rank.transCmp_order` — so is the order of ranks;
* `Version.order_trans`, `Version.order_swap` — **the order of published versions is transitive and
  turns round**.
-/

import ManifestRegistry.Version.Precedence

set_option relaxedAutoImplicit false
set_option autoImplicit false

namespace ManifestRegistry

open Std

/-! ### Instants -/

namespace Instant

theorem order_eq_compareLex :
    order = compareLex (compareOn Instant.seconds) (compareOn Instant.nanos) := rfl

instance transCmp_order : TransCmp Instant.order := by
  rw [order_eq_compareLex]
  infer_instance

end Instant

/-! ### Texts -/

namespace Text

theorem order_eq_compareLex : order = List.compareLex (compareOn Char.toNat) := by
  funext a
  induction a with
  | nil => funext b; cases b <;> rfl
  | cons c cs ih =>
      funext b
      cases b with
      | nil => rfl
      | cons d ds =>
          rw [List.compareLex_cons_cons, ← ih]
          rfl

instance transCmp_order : TransCmp Text.order := by
  rw [order_eq_compareLex]
  infer_instance

end Text

namespace Version

/-! ### Semantic versions -/

theorem Identifier.order_swap (a b : Identifier) : (a.order b).swap = b.order a := by
  cases a with
  | number m =>
      cases b with
      | number n => exact (@OrientedCmp.eq_swap Nat compare _ _ _).symm
      | word _ => rfl
  | word v =>
      cases b with
      | number _ => rfl
      | word w => exact (@OrientedCmp.eq_swap _ Text.order _ _ _).symm

theorem Identifier.order_trans {a b c : Identifier} (hab : (a.order b).isLE)
    (hbc : (b.order c).isLE) : (a.order c).isLE := by
  cases a with
  | number l =>
      cases b with
      | number m =>
          cases c with
          | number n => exact @TransCmp.isLE_trans Nat compare _ _ _ _ hab hbc
          | word _ => rfl
      | word _ =>
          cases c with
          | number _ => simp [Identifier.order] at hbc
          | word _ => rfl
  | word u =>
      cases b with
      | number _ => simp [Identifier.order] at hab
      | word v =>
          cases c with
          | number _ => simp [Identifier.order] at hbc
          | word w => exact @TransCmp.isLE_trans _ Text.order _ _ _ _ hab hbc

instance Identifier.transCmp_order : TransCmp Identifier.order where
  eq_swap := (Identifier.order_swap _ _).symm
  isLE_trans := Identifier.order_trans

theorem identifiersOrder_eq_compareLex :
    identifiersOrder = List.compareLex Identifier.order := by
  funext a
  induction a with
  | nil => funext b; cases b <;> rfl
  | cons i is ih =>
      funext b
      cases b with
      | nil => rfl
      | cons j js =>
          rw [List.compareLex_cons_cons, ← ih]
          rfl

instance transCmp_identifiersOrder : TransCmp identifiersOrder := by
  rw [identifiersOrder_eq_compareLex]
  infer_instance

theorem preOrder_swap (a b : List Identifier) : (preOrder a b).swap = preOrder b a := by
  cases a <;> cases b
  case cons.cons => exact (@OrientedCmp.eq_swap _ identifiersOrder _ _ _).symm
  all_goals rfl

/-- Having no prerelease is on top, so only three prereleases have to be compared in earnest. -/
theorem preOrder_trans {a b c : List Identifier} (hab : (preOrder a b).isLE)
    (hbc : (preOrder b c).isLE) : (preOrder a c).isLE := by
  cases a with
  | nil =>
      cases b with
      | nil => exact hbc
      | cons _ _ => simp [preOrder] at hab
  | cons _ _ =>
      cases c with
      | nil => rfl
      | cons _ _ =>
          cases b with
          | nil => simp [preOrder] at hbc
          | cons _ _ => exact @TransCmp.isLE_trans _ identifiersOrder _ _ _ _ hab hbc

instance transCmp_preOrder : TransCmp preOrder where
  eq_swap := (preOrder_swap _ _).symm
  isLE_trans := preOrder_trans

theorem precedence_eq (a b : Version) :
    a.precedence b =
      compareLex (compareOn Version.major) (compareLex (compareOn Version.minor)
        (compareLex (compareOn Version.patch) fun v w => preOrder v.pre w.pre)) a b := rfl

instance transCmp_pre : TransCmp fun v w : Version => preOrder v.pre w.pre where
  eq_swap := (preOrder_swap _ _).symm
  isLE_trans := preOrder_trans

instance transCmp_precedence : TransCmp Version.precedence := by
  rw [funext fun a => funext fun b => precedence_eq a b]
  infer_instance

/-! ### Ranks -/

theorem Rank.order_swap (a b : Rank) : (a.order b).swap = b.order a := by
  cases a <;> cases b
  case other.other s t => exact Instant.order_swap s t
  case semantic.semantic v w => exact (@OrientedCmp.eq_swap _ Version.precedence _ _ _).symm
  all_goals rfl

theorem Rank.order_trans {a b c : Rank} (hab : (a.order b).isLE) (hbc : (b.order c).isLE) :
    (a.order c).isLE := by
  cases a with
  | empty => cases c <;> rfl
  | other s =>
      cases b with
      | empty => simp [Rank.order] at hab
      | other t =>
          cases c with
          | empty => simp [Rank.order] at hbc
          | other u => exact @TransCmp.isLE_trans _ Instant.order _ _ _ _ hab hbc
          | semantic _ => rfl
      | semantic _ =>
          cases c with
          | semantic _ => rfl
          | _ => simp [Rank.order] at hbc
  | semantic v =>
      cases b with
      | semantic w =>
          cases c with
          | semantic x => exact @TransCmp.isLE_trans _ Version.precedence _ _ _ _ hab hbc
          | _ => simp [Rank.order] at hbc
      | _ => simp [Rank.order] at hab

instance Rank.transCmp_order : TransCmp Rank.order where
  eq_swap := (Rank.order_swap _ _).symm
  isLE_trans := Rank.order_trans

/-! ### Published versions -/

theorem rank_of_parse? {a : String} {v : Version} (h : parse? a = some v) (s : Instant) :
    rank a s = .semantic v := by
  have hne : a.isEmpty = false := by
    refine Bool.eq_false_iff.2 fun hempty => ?_
    rw [String.isEmpty_iff.1 hempty] at h
    cases h
  rw [rank, hne, h]
  rfl

/-- The order turned round. -/
theorem order_swap (a : String) (s : Instant) (b : String) (t : Instant) :
    (order a s b t).swap = order b t a s :=
  Rank.order_swap _ _

/-- **The order of published versions is transitive.** -/
theorem order_trans {a b c : String} {s t u : Instant} (hab : (order a s b t).isGE)
    (hbc : (order b t c u).isGE) : (order a s c u).isGE :=
  @TransCmp.isGE_trans _ Rank.order _ _ _ _ hab hbc

theorem order_self_isGE (a : String) (s : Instant) : (order a s a s).isGE := by
  have h : Rank.order (rank a s) (rank a s) = .eq := ReflCmp.compare_self
  rw [order, h]
  rfl

theorem isGE_of_not_supersedes {a b : String} {s t : Instant} (h : supersedes a s b t = false) :
    (order b t a s).isGE := by
  rw [← order_swap a s b t]
  simp only [supersedes, decide_eq_false_iff_not] at h
  cases ho : order a s b t <;> simp_all

theorem isGE_of_supersedes {a b : String} {s t : Instant} (h : supersedes a s b t = true) :
    (order a s b t).isGE := by
  simp only [supersedes, decide_eq_true_eq] at h
  rw [h]
  rfl

end Version

end ManifestRegistry
