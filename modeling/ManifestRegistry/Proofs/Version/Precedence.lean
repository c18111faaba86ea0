/-
**The precedence of semantic versions.**

Precedence is laid down by rules: the numbers of the core decide from left to right; a prerelease comes
before its release; of two prereleases the first identifiers that differ decide, numbers by value, words by
their characters, numbers before words; and a prerelease that ends where the other goes on comes first.
Build metadata, a letter in front and the time of publication count for nothing.  The rules are stated as a
relation, and comparing two version strings is shown to follow it.

Main definitions:

* `Version.Identifier.Before`, `Version.PreBefore`, `Version.Before` — **the rules**;
* `Version.Ties` — versions that no rule tells apart.

Main results:

* `Version.precedence_eq_lt`, `Version.precedence_eq_eq` — comparing versions follows the rules;
* `Version.order_follows_rules` — **comparing version strings follows the rules**, however they are written
  and whenever they were published.
-/

import ManifestRegistry.Proofs.Version.Preorder
import ManifestRegistry.Proofs.Version.Spelling

set_option relaxedAutoImplicit false
set_option autoImplicit false

namespace ManifestRegistry

open Std

namespace Version

/-! ### The rules -/

/-- The rules for two identifiers. -/
inductive Identifier.Before : Identifier → Identifier → Prop
  | numbers {m n : Nat} (h : m < n) : Before (.number m) (.number n)
  | mixed (n : Nat) (cs : List Char) : Before (.number n) (.word cs)
  | words {as bs : List Char} (h : as < bs) : Before (.word as) (.word bs)

/-- The rules for two prereleases, of which a release has none. -/
inductive PreBefore : List Identifier → List Identifier → Prop
  | release {is : List Identifier} (h : is ≠ []) : PreBefore is []
  | identifiers {is js : List Identifier} (hne : is ≠ []) (h : List.Lex Identifier.Before is js) :
      PreBefore is js

/-- The rules for two versions. -/
inductive Before : Version → Version → Prop
  | major {v w : Version} (h : v.major < w.major) : Before v w
  | minor {v w : Version} (hmajor : v.major = w.major) (h : v.minor < w.minor) : Before v w
  | patch {v w : Version} (hmajor : v.major = w.major) (hminor : v.minor = w.minor)
      (h : v.patch < w.patch) : Before v w
  | pre {v w : Version} (hmajor : v.major = w.major) (hminor : v.minor = w.minor)
      (hpatch : v.patch = w.patch) (h : PreBefore v.pre w.pre) : Before v w

/-- Versions that differ in their build metadata at most. -/
structure Ties (v w : Version) : Prop where
  major : v.major = w.major
  minor : v.minor = w.minor
  patch : v.patch = w.patch
  pre : v.pre = w.pre

/-! ### Lists -/

theorem compareLex_eq_eq {α : Type} {cmp : α → α → Ordering} (heq : ∀ a b, cmp a b = .eq ↔ a = b)
    {as bs : List α} : List.compareLex cmp as bs = .eq ↔ as = bs := by
  induction as generalizing bs with
  | nil => cases bs <;> simp [List.compareLex]
  | cons a as ih =>
      cases bs with
      | nil => simp [List.compareLex]
      | cons b bs => rw [List.compareLex_cons_cons, Ordering.then_eq_eq, heq, ih, List.cons.injEq]

/-- The first elements that differ decide which list comes first, or else the end of the shorter one. -/
theorem compareLex_eq_lt {α : Type} {cmp : α → α → Ordering} {R : α → α → Prop}
    (heq : ∀ a b, cmp a b = .eq ↔ a = b) (hlt : ∀ a b, cmp a b = .lt ↔ R a b) {as bs : List α} :
    List.compareLex cmp as bs = .lt ↔ List.Lex R as bs := by
  induction as generalizing bs with
  | nil =>
      cases bs with
      | nil => simp [List.compareLex]
      | cons b bs => exact iff_of_true rfl .nil
  | cons a as ih =>
      cases bs with
      | nil => simp [List.compareLex]
      | cons b bs =>
          rw [List.compareLex_cons_cons, Ordering.then_eq_lt, hlt, heq, ih]
          constructor
          · rintro (h | ⟨rfl, h⟩)
            · exact .rel h
            · exact .cons h
          · rintro (_ | h | h)
            · exact .inl h
            · exact .inr ⟨rfl, h⟩

/-! ### Versions -/

theorem toNat_order_eq {a b : Char} : compareOn Char.toNat a b = .eq ↔ a = b := by
  rw [compareOn, Nat.compare_eq_eq, Char.toNat_inj]

theorem toNat_order_lt {a b : Char} : compareOn Char.toNat a b = .lt ↔ a < b := by
  rw [compareOn, Nat.compare_eq_lt]
  rfl

theorem text_order_lt {as bs : List Char} : Text.order as bs = .lt ↔ as < bs := by
  rw [Text.order_eq_compareLex]
  exact compareLex_eq_lt (fun _ _ => toNat_order_eq) fun _ _ => toNat_order_lt

theorem text_order_eq {as bs : List Char} : Text.order as bs = .eq ↔ as = bs := by
  rw [Text.order_eq_compareLex]
  exact compareLex_eq_eq fun _ _ => toNat_order_eq

theorem Identifier.order_eq_lt {i j : Identifier} : i.order j = .lt ↔ i.Before j := by
  cases i with
  | number m =>
      cases j with
      | number n => exact Nat.compare_eq_lt.trans ⟨.numbers, fun | .numbers h => h⟩
      | word cs => exact iff_of_true rfl (.mixed m cs)
  | word as =>
      cases j with
      | number n => exact iff_of_false (by rintro ⟨⟩) (by rintro ⟨⟩)
      | word bs => exact text_order_lt.trans ⟨.words, fun | .words h => h⟩

theorem Identifier.order_eq_eq {i j : Identifier} : i.order j = .eq ↔ i = j := by
  cases i with
  | number m =>
      cases j with
      | number n => rw [Identifier.order, Nat.compare_eq_eq, Identifier.number.injEq]
      | word cs => exact iff_of_false (by rintro ⟨⟩) (by rintro ⟨⟩)
  | word as =>
      cases j with
      | number n => exact iff_of_false (by rintro ⟨⟩) (by rintro ⟨⟩)
      | word bs => rw [Identifier.order, text_order_eq, Identifier.word.injEq]

theorem preOrder_eq_lt {is js : List Identifier} : preOrder is js = .lt ↔ PreBefore is js := by
  cases is with
  | nil =>
      refine iff_of_false ?_ ?_
      · cases js <;> rintro ⟨⟩
      · rintro (h | ⟨h, -⟩) <;> exact h rfl
  | cons i is =>
      cases js with
      | nil => exact iff_of_true rfl (.release (List.cons_ne_nil _ _))
      | cons j js =>
          rw [preOrder, identifiersOrder_eq_compareLex,
            compareLex_eq_lt (fun _ _ => Identifier.order_eq_eq) fun _ _ => Identifier.order_eq_lt]
          constructor
          · exact .identifiers (List.cons_ne_nil i is)
          · rintro (_ | ⟨-, h⟩)
            exact h

theorem preOrder_eq_eq {is js : List Identifier} : preOrder is js = .eq ↔ is = js := by
  cases is with
  | nil => cases js <;> simp [preOrder]
  | cons i is =>
      cases js with
      | nil => simp [preOrder]
      | cons j js =>
          rw [preOrder, identifiersOrder_eq_compareLex, compareLex_eq_eq fun _ _ => Identifier.order_eq_eq]

/-- **Comparing versions follows the rules.** -/
theorem precedence_eq_lt {v w : Version} : v.precedence w = .lt ↔ v.Before w := by
  simp only [precedence, Ordering.then_eq_lt, Nat.compare_eq_lt, Nat.compare_eq_eq, preOrder_eq_lt]
  constructor
  · rintro (h | ⟨hmajor, h | ⟨hminor, h | ⟨hpatch, h⟩⟩⟩)
    · exact .major h
    · exact .minor hmajor h
    · exact .patch hmajor hminor h
    · exact .pre hmajor hminor hpatch h
  · rintro (h | ⟨hmajor, h⟩ | ⟨hmajor, hminor, h⟩ | ⟨hmajor, hminor, hpatch, h⟩)
    · exact .inl h
    · exact .inr ⟨hmajor, .inl h⟩
    · exact .inr ⟨hmajor, .inr ⟨hminor, .inl h⟩⟩
    · exact .inr ⟨hmajor, .inr ⟨hminor, .inr ⟨hpatch, h⟩⟩⟩

theorem precedence_eq_eq {v w : Version} : v.precedence w = .eq ↔ v.Ties w := by
  simp only [precedence, Ordering.then_eq_eq, Nat.compare_eq_eq, preOrder_eq_eq]
  exact ⟨fun ⟨ha, hb, hc, hp⟩ => ⟨ha, hb, hc, hp⟩, fun h => ⟨h.major, h.minor, h.patch, h.pre⟩⟩

theorem precedence_eq_gt {v w : Version} : v.precedence w = .gt ↔ w.Before v := by
  rw [← precedence_eq_lt, OrientedCmp.gt_iff_lt]

/-! ### Version strings -/

/-- **Comparing two semantic version strings follows the rules.**  It does not matter when they were
published, whether a letter stands in front of them or which build metadata stand behind them. -/
theorem order_follows_rules {a b : String} {v w : Version} (ha : parse? a = some v)
    (hb : parse? b = some w) (s t : Instant) :
    (v.IsStrict ∧ ∃ letter ∈ letters, a = v.spelling letter) ∧
    (w.IsStrict ∧ ∃ letter ∈ letters, b = w.spelling letter) ∧
    (order a s b t = .lt ↔ v.Before w) ∧ (order a s b t = .gt ↔ w.Before v) ∧
    (order a s b t = .eq ↔ v.Ties w) ∧
    ∀ k ∈ letters, ∀ l ∈ letters, ∀ build build' : List (List Char),
      (∀ label ∈ build, IsLabel label) → (∀ label ∈ build', IsLabel label) → ∀ s' t',
        order ({ v with build }.spelling k) s' ({ w with build := build' }.spelling l) t' =
          order a s b t := by
  have hspelled := parse?_eq_some.1 ha
  have hspelled' := parse?_eq_some.1 hb
  have horder : order a s b t = v.precedence w := by
    rw [order, rank_of_parse? ha, rank_of_parse? hb]
    rfl
  refine ⟨hspelled, hspelled', ?_, ?_, ?_, ?_⟩
  · rw [horder, precedence_eq_lt]
  · rw [horder, precedence_eq_gt]
  · rw [horder, precedence_eq_eq]
  · intro k hk l hl build build' hbuild hbuild' s' t'
    obtain ⟨hv, -⟩ := hspelled
    obtain ⟨hw, -⟩ := hspelled'
    have hread : parse? ({ v with build }.spelling k) = some { v with build } :=
      parse?_eq_some.2 ⟨{ hv with build := hbuild }, k, hk, rfl⟩
    have hread' : parse? ({ w with build := build' }.spelling l) = some { w with build := build' } :=
      parse?_eq_some.2 ⟨{ hw with build := hbuild' }, l, hl, rfl⟩
    -- no rule looks at the build metadata
    rw [horder, order, rank_of_parse? hread, rank_of_parse? hread']
    rfl

/-- A prerelease with a smaller number comes first, although its numeral comes later and it was published
later. -/
theorem order_follows_rules_numerals :
    let v : Version := ⟨1, 0, 0, [.word ['r', 'c'], .number 2], [['x']]⟩
    let w : Version := ⟨1, 0, 0, [.word ['r', 'c'], .number 10], []⟩
    (parse? "v1.0.0-rc.2+x" = some v ∧ parse? "1.0.0-rc.10" = some w) ∧ v.Before w ∧
      ∀ s t, order "v1.0.0-rc.2+x" s "1.0.0-rc.10" t = .lt := by
  intro v w
  have hv : parse? "v1.0.0-rc.2+x" = some v := by decide +kernel
  have hw : parse? "1.0.0-rc.10" = some w := by decide +kernel
  have hbefore : v.Before w := .pre rfl rfl rfl
    (.identifiers (List.cons_ne_nil _ _) (.cons (.rel (.numbers (by decide)))))
  exact ⟨⟨hv, hw⟩, hbefore, fun s t => (order_follows_rules hv hw s t).2.2.1.2 hbefore⟩

end Version

end ManifestRegistry
