/-
**Numerals read back.**

A number written in decimal digits is read back from them, also with zeros in front.

Main results:

* `Text.digitsValue_toDigits`, `Text.digitsValue_padded` — **the value of a numeral is its number**;
* `Text.natural?_toDigits` — a number's numeral is read back if it is within the bound;
* `Text.toDigits_eq_cons` — a numeral has no zero in front, unless it is zero;
* `Text.eq_toDigits_iff` — **digits are a numeral unless they have a superfluous zero in front**;
* `Text.order_padded` — padded numerals of one width are in the order of their numbers;
* `Text.order_filled` — numerals of different widths are compared as if zeros filled them up behind.
-/

import ManifestRegistry.Text.Decimal
import ManifestRegistry.Text.Order
import Mathlib.Algebra.Group.Nat.Defs

set_option relaxedAutoImplicit false
set_option autoImplicit false

namespace ManifestRegistry

namespace Text

theorem foldl_digitValue (ds : List Char) (m : Nat) :
    ds.foldl (fun n c => 10 * n + digitValue c) m = Nat.ofDigitChars 10 ds m :=
  Nat.ofDigitChars_eq_foldl.symm

/-- A numeral has the value of its number. -/
@[simp] theorem digitsValue_toDigits (n : Nat) : digitsValue (Nat.toDigits 10 n) = n := by
  rw [digitsValue, foldl_digitValue, Nat.ofDigitChars_ten_toDigits]

theorem isDigit_of_mem_toDigits {n : Nat} {c : Char} (h : c ∈ Nat.toDigits 10 n) : c.isDigit :=
  Nat.isDigit_of_mem_toDigits (by omega) (by omega) h

/-- Zeros in front do not matter. -/
@[simp] theorem digitsValue_padded (width n : Nat) : digitsValue (padded width n) = n := by
  rw [padded, digitsValue, List.foldl_append, foldl_digitValue, foldl_digitValue,
    Nat.ofDigitChars_replicate_zero, Nat.mul_zero, Nat.ofDigitChars_ten_toDigits]

theorem isDigit_of_mem_padded {width n : Nat} {c : Char} (h : c ∈ padded width n) : c.isDigit := by
  rcases List.mem_append.1 h with h | h
  · rw [List.eq_of_mem_replicate h]
    rfl
  · exact isDigit_of_mem_toDigits h

theorem length_padded {width n : Nat} (hw : 0 < width) (h : n < 10 ^ width) :
    (padded width n).length = width := by
  have hlen := (Nat.length_toDigits_le_iff (b := 10) (by omega) hw).2 h
  simp only [padded, List.length_append, List.length_replicate]
  omega

theorem length_padded_pos (width n : Nat) : 0 < (padded width n).length := by
  have := Nat.length_toDigits_pos (b := 10) (n := n)
  simp only [padded, List.length_append, List.length_replicate]
  omega

theorem digitsValue?_eq_some {ds : List Char} (hne : ds ≠ []) (h : ∀ c ∈ ds, c.isDigit) :
    digitsValue? ds = some (digitsValue ds) := by
  rw [digitsValue?, if_pos ⟨hne, List.all_eq_true.2 h⟩]

theorem ne_plus_of_isDigit {c : Char} (h : c.isDigit) : c ≠ '+' := by
  rintro rfl
  cases h

theorem natural?_of_isDigit (bound : Nat) {ds : List Char} (hne : ds ≠ [])
    (h : ∀ c ∈ ds, c.isDigit) :
    natural? bound ds = if digitsValue ds ≤ bound then some (digitsValue ds) else none := by
  unfold natural?
  split
  · rename_i cs
    exact absurd rfl (ne_plus_of_isDigit (h '+' List.mem_cons_self))
  · simp only [digitsValue?_eq_some hne h]

/-- A number's numeral is read back if it is within the bound. -/
theorem natural?_toDigits (bound n : Nat) :
    natural? bound (Nat.toDigits 10 n) = if n ≤ bound then some n else none := by
  have hread := natural?_of_isDigit bound (Nat.toDigits_ne_nil (b := 10) (n := n))
    fun _ => isDigit_of_mem_toDigits
  rwa [digitsValue_toDigits] at hread

/-- A numeral has no zero in front, unless it is that of zero. -/
theorem toDigits_eq_cons (n : Nat) : Nat.toDigits 10 n = ['0'] ∨
    ∃ c cs, Nat.toDigits 10 n = c :: cs ∧ c.isDigit ∧ c ≠ '0' ∧ ∀ d ∈ cs, d.isDigit := by
  by_cases hn : n < 10
  · rw [Nat.toDigits_of_lt_base hn]
    by_cases h0 : n = 0
    · subst h0
      exact .inl rfl
    · refine .inr ⟨n.digitChar, [], rfl, by simp [Nat.isDigit_digitChar, hn], ?_, by simp⟩
      revert h0
      revert n
      decide
  · -- the digits of the tens come first, and the last digit behind them
    have hstep := Nat.toDigits_of_base_le (b := 10) (n := n) (by omega) (by omega)
    rcases toDigits_eq_cons (n / 10) with h | ⟨c, cs, h, hc, h0, hcs⟩
    · have hv := digitsValue_toDigits (n / 10)
      rw [h] at hv
      simp only [digitsValue, digitValue, List.foldl_cons, List.foldl_nil] at hv
      have : '0'.toNat - 48 = 0 := rfl
      omega
    · refine .inr ⟨c, cs ++ [(n % 10).digitChar], by rw [hstep, h]; rfl, hc, h0, fun d hd => ?_⟩
      rcases List.mem_append.1 hd with hd | hd
      · exact hcs d hd
      · rw [List.mem_singleton.1 hd, Nat.isDigit_digitChar]
        exact decide_eq_true (Nat.mod_lt _ (by omega))
termination_by n

/-! ### Numerals told from digits -/

theorem digitValue_lt {c : Char} (h : c.isDigit) : digitValue c < 10 := by
  have hhigh : c.toNat ≤ 57 := (Char.isDigit_iff_toNat.1 h).2
  unfold digitValue
  omega

/-- A digit is as many places behind the zero as its value says. -/
theorem toNat_of_isDigit {c : Char} (h : c.isDigit) : c.toNat = digitValue c + 48 := by
  have hlow : 48 ≤ c.toNat := (Char.isDigit_iff_toNat.1 h).1
  unfold digitValue
  omega

theorem digitChar_digitValue {c : Char} (h : c.isDigit) : (digitValue c).digitChar = c := by
  apply Char.toNat_inj.1
  rw [Nat.toNat_digitChar_of_lt_ten (digitValue_lt h), toNat_of_isDigit h, Nat.add_comm]

theorem digitsValue?_eq_some_iff {ds : List Char} {n : Nat} : digitsValue? ds = some n ↔
    (ds ≠ [] ∧ ∀ c ∈ ds, c.isDigit) ∧ digitsValue ds = n := by
  simp [digitsValue?]

/-- Digits behind a numeral make a longer one, unless it is that of zero. -/
theorem toDigits_foldl {n : Nat} (hn : 0 < n) {ds : List Char} (h : ∀ c ∈ ds, c.isDigit) :
    Nat.toDigits 10 (ds.foldl (fun n c => 10 * n + digitValue c) n) = Nat.toDigits 10 n ++ ds := by
  induction ds generalizing n with
  | nil => exact (List.append_nil _).symm
  | cons d ds ih =>
      have hlt := digitValue_lt (h d List.mem_cons_self)
      have hlast : Nat.toDigits 10 (10 * n + digitValue d) = Nat.toDigits 10 n ++ [d] := by
        rw [← Nat.toDigits_append_toDigits (by omega) hn hlt, Nat.toDigits_of_lt_base hlt,
          digitChar_digitValue (h d List.mem_cons_self)]
      rw [List.foldl_cons, ih (by omega) fun c hc => h c (List.mem_cons_of_mem _ hc), hlast,
        List.append_assoc, List.singleton_append]

/-- Digits without a superfluous zero in front are the numeral of their value. -/
theorem toDigits_digitsValue {ds : List Char} (hne : ds ≠ []) (h : ∀ c ∈ ds, c.isDigit)
    (hzero : ds.head? ≠ some '0' ∨ ds.length = 1) : Nat.toDigits 10 (digitsValue ds) = ds := by
  obtain ⟨d, ds, rfl⟩ := List.exists_cons_of_ne_nil hne
  have hd := h d List.mem_cons_self
  have hfirst : Nat.toDigits 10 (digitValue d) = [d] := by
    rw [Nat.toDigits_of_lt_base (digitValue_lt hd), digitChar_digitValue hd]
  have hvalue : digitsValue (d :: ds) = ds.foldl (fun n c => 10 * n + digitValue c) (digitValue d) := by
    rw [digitsValue, List.foldl_cons, Nat.mul_zero, Nat.zero_add]
  rw [hvalue]
  by_cases hpos : 0 < digitValue d
  · rw [toDigits_foldl hpos fun c hc => h c (List.mem_cons_of_mem _ hc), hfirst, List.singleton_append]
  · -- a zero in front stands alone
    obtain rfl : d = '0' := by
      rw [← digitChar_digitValue hd, Nat.eq_zero_of_not_pos hpos]
      rfl
    have hone : ds = [] := by
      rcases hzero with hzero | hzero
      · exact absurd rfl hzero
      · exact List.length_eq_zero_iff.1 (Nat.succ.inj hzero)
    rw [hone, List.foldl_nil, hfirst]

/-- **Digits are the numeral of a number exactly if they have its value and no superfluous zero in front.** -/
theorem eq_toDigits_iff {ds : List Char} {n : Nat} : ds = Nat.toDigits 10 n ↔
    (ds.head? ≠ some '0' ∨ ds.length = 1) ∧ digitsValue? ds = some n := by
  rw [digitsValue?_eq_some_iff]
  constructor
  · rintro rfl
    refine ⟨?_, ⟨Nat.toDigits_ne_nil, fun _ => isDigit_of_mem_toDigits⟩, digitsValue_toDigits n⟩
    rcases toDigits_eq_cons n with h | ⟨c, cs, h, -, hc, -⟩
    · exact .inr (congrArg List.length h)
    · rw [h]
      exact .inl fun he => hc (Option.some_inj.1 he)
  · rintro ⟨hzero, ⟨hne, hdigits⟩, rfl⟩
    exact (toDigits_digitsValue hne hdigits hzero).symm

/-! ### Numerals in order -/

theorem order_append {as bs : List Char} (h : as.length = bs.length) (cs ds : List Char) :
    order (as ++ cs) (bs ++ ds) = (order as bs).then (order cs ds) := by
  induction as generalizing bs with
  | nil =>
      obtain rfl := List.length_eq_zero_iff.1 h.symm
      rfl
  | cons a as ih =>
      cases bs with
      | nil => cases h
      | cons b bs =>
          rw [List.cons_append, List.cons_append, order, order, ih (Nat.succ.inj h),
            Ordering.then_assoc]

@[simp] theorem order_cons_self (c : Char) (as bs : List Char) :
    order (c :: as) (c :: bs) = order as bs := by
  rw [order, Nat.compare_eq_eq.2 rfl, Ordering.eq_then]

theorem foldl_eq_add (ds : List Char) (m : Nat) :
    ds.foldl (fun n c => 10 * n + digitValue c) m = m * 10 ^ ds.length + digitsValue ds := by
  -- the value read before is shifted by every digit to come
  induction ds generalizing m with
  | nil => simp [digitsValue]
  | cons d ds ih =>
      rw [digitsValue, List.foldl_cons, List.foldl_cons, ih, ih (10 * 0 + digitValue d),
        List.length_cons, Nat.pow_succ]
      generalize 10 ^ ds.length = k
      rw [Nat.add_mul, Nat.mul_zero, Nat.zero_add, Nat.mul_comm 10 m, Nat.mul_assoc, Nat.mul_comm 10 k]
      omega

theorem digitsValue_cons (d : Char) (ds : List Char) :
    digitsValue (d :: ds) = digitValue d * 10 ^ ds.length + digitsValue ds := by
  rw [digitsValue, List.foldl_cons, foldl_eq_add, Nat.mul_zero, Nat.zero_add]

theorem digitsValue_lt {ds : List Char} (h : ∀ c ∈ ds, c.isDigit) :
    digitsValue ds < 10 ^ ds.length := by
  induction ds with
  | nil => exact Nat.one_pos
  | cons d ds ih =>
      have hd : digitValue d ≤ 9 := Nat.le_of_lt_succ (digitValue_lt (h d List.mem_cons_self))
      have hds := ih fun c hc => h c (List.mem_cons_of_mem _ hc)
      have hmul := Nat.mul_le_mul_right (10 ^ ds.length) hd
      rw [digitsValue_cons, List.length_cons, Nat.pow_succ]
      omega

theorem compare_mul_add {k a b x y : Nat} (hx : x < k) (hy : y < k) :
    compare (a * k + x) (b * k + y) = (compare a b).then (compare x y) := by
  rcases Nat.lt_trichotomy a b with h | rfl | h
  · have hmul := Nat.mul_le_mul_right k h
    rw [Nat.succ_mul] at hmul
    rw [Nat.compare_eq_lt.2 h, Nat.compare_eq_lt.2 (by omega), Ordering.lt_then]
  · rw [Nat.compare_eq_eq.2 rfl, Ordering.eq_then]
    simp only [Nat.compare_eq_ite_lt, Nat.add_lt_add_iff_left]
  · have hmul := Nat.mul_le_mul_right k h
    rw [Nat.succ_mul] at hmul
    rw [Nat.compare_eq_gt.2 h, Nat.compare_eq_gt.2 (by omega), Ordering.gt_then]

theorem order_digits {ds es : List Char} (hlen : ds.length = es.length)
    (hds : ∀ c ∈ ds, c.isDigit) (hes : ∀ c ∈ es, c.isDigit) :
    order ds es = compare (digitsValue ds) (digitsValue es) := by
  -- of equal lengths, the first digit that differs outweighs all that follow it
  induction ds generalizing es with
  | nil =>
      obtain rfl := List.length_eq_zero_iff.1 hlen.symm
      rfl
  | cons d ds ih =>
      cases es with
      | nil => cases hlen
      | cons e es =>
          have hds' : ∀ c ∈ ds, c.isDigit := fun c hc => hds c (List.mem_cons_of_mem _ hc)
          have hes' : ∀ c ∈ es, c.isDigit := fun c hc => hes c (List.mem_cons_of_mem _ hc)
          have hlen' : ds.length = es.length := Nat.succ.inj hlen
          have hd := toNat_of_isDigit (hds d List.mem_cons_self)
          have he := toNat_of_isDigit (hes e List.mem_cons_self)
          have hfirst : compare d.toNat e.toNat = compare (digitValue d) (digitValue e) := by
            simp only [hd, he, Nat.compare_eq_ite_lt, Nat.add_lt_add_iff_right]
          rw [order, ih hlen' hds' hes', digitsValue_cons, digitsValue_cons, hlen',
            compare_mul_add (hlen' ▸ digitsValue_lt hds') (digitsValue_lt hes'), hfirst]

/-- **Padded numerals of one width are in the order of their numbers.** -/
theorem order_padded {width m n : Nat} (hw : 0 < width) (hm : m < 10 ^ width)
    (hn : n < 10 ^ width) : order (padded width m) (padded width n) = compare m n := by
  rw [order_digits ((length_padded hw hm).trans (length_padded hw hn).symm)
    (fun _ => isDigit_of_mem_padded) (fun _ => isDigit_of_mem_padded), digitsValue_padded,
    digitsValue_padded]

/-! ### Numerals of different widths -/

/-- The value of digits filled up with zeros behind, to a width. -/
def filled (width : Nat) (ds : List Char) : Nat := digitsValue ds * 10 ^ (width - ds.length)

theorem filled_cons (width : Nat) (d : Char) (ds : List Char) (h : ds.length ≤ width) :
    filled (width + 1) (d :: ds) = digitValue d * 10 ^ width + filled width ds := by
  have hwidth : 10 ^ ds.length * 10 ^ (width - ds.length) = 10 ^ width := by
    rw [← Nat.pow_add, Nat.add_sub_cancel' h]
  rw [filled, filled, digitsValue_cons, List.length_cons, Nat.add_sub_add_right, Nat.add_mul,
    Nat.mul_assoc, hwidth]

theorem filled_lt {width : Nat} {ds : List Char} (hds : ∀ c ∈ ds, c.isDigit)
    (h : ds.length ≤ width) : filled width ds < 10 ^ width := by
  rw [← Nat.add_sub_cancel' h, Nat.pow_add, filled, Nat.add_sub_cancel_left]
  exact Nat.mul_lt_mul_of_pos_right (digitsValue_lt hds) (Nat.pow_pos (by omega))

/-- **Numerals before a mark that is before all digits are compared as if they were filled up with zeros
behind**, and of those that this makes equal the shorter one comes first. -/
theorem order_filled {mark : Char} (hmark : mark.toNat < 48) {width : Nat} {ds es : List Char}
    (hds : ∀ c ∈ ds, c.isDigit) (hes : ∀ c ∈ es, c.isDigit) (hlen : ds.length ≤ width)
    (hlen' : es.length ≤ width) (as bs : List Char) :
    order (ds ++ mark :: as) (es ++ mark :: bs) =
      (compare (filled width ds) (filled width es)).then
        ((compare ds.length es.length).then (order as bs)) := by
  induction ds generalizing es width with
  | nil =>
      cases es with
      | nil => simp only [List.nil_append, order_cons_self, Nat.compare_eq_eq.2, Ordering.eq_then]
      | cons e es =>
          -- the mark is before the digit, and nothing filled up is below zero
          have he := toNat_of_isDigit (hes e List.mem_cons_self)
          have hzero : filled width [] = 0 := Nat.zero_mul _
          rw [List.nil_append, List.cons_append, order, Nat.compare_eq_lt.2 (by omega), hzero,
            List.length_nil, List.length_cons, Nat.compare_eq_lt.2 (Nat.succ_pos es.length),
            Ordering.lt_then, Ordering.lt_then, eq_comm, Ordering.then_eq_lt]
          rcases Nat.eq_zero_or_pos (filled width (e :: es)) with h | h
          · exact .inr ⟨Nat.compare_eq_eq.2 h.symm, rfl⟩
          · exact .inl (Nat.compare_eq_lt.2 h)
  | cons d ds ih =>
      have hd := toNat_of_isDigit (hds d List.mem_cons_self)
      cases es with
      | nil =>
          have hzero : filled width [] = 0 := Nat.zero_mul _
          rw [List.nil_append, List.cons_append, order, Nat.compare_eq_gt.2 (by omega), hzero,
            List.length_nil, List.length_cons, Nat.compare_eq_gt.2 (Nat.succ_pos ds.length),
            Ordering.gt_then, Ordering.gt_then, eq_comm, Ordering.then_eq_gt]
          rcases Nat.eq_zero_or_pos (filled width (d :: ds)) with h | h
          · exact .inr ⟨Nat.compare_eq_eq.2 h, rfl⟩
          · exact .inl (Nat.compare_eq_gt.2 h)
      | cons e es =>
          obtain ⟨width, rfl⟩ := Nat.exists_eq_succ_of_ne_zero (Nat.ne_of_gt
            (Nat.lt_of_lt_of_le (Nat.succ_pos ds.length) hlen))
          have hds' : ∀ c ∈ ds, c.isDigit := fun c hc => hds c (List.mem_cons_of_mem _ hc)
          have hes' : ∀ c ∈ es, c.isDigit := fun c hc => hes c (List.mem_cons_of_mem _ hc)
          have hle : ds.length ≤ width := Nat.le_of_succ_le_succ hlen
          have hle' : es.length ≤ width := Nat.le_of_succ_le_succ hlen'
          have he := toNat_of_isDigit (hes e List.mem_cons_self)
          have hfirst : compare d.toNat e.toNat = compare (digitValue d) (digitValue e) := by
            simp only [hd, he, Nat.compare_eq_ite_lt, Nat.add_lt_add_iff_right]
          have hlength : compare (ds.length + 1) (es.length + 1) = compare ds.length es.length := by
            simp only [Nat.compare_eq_ite_lt, Nat.add_lt_add_iff_right]
          rw [List.cons_append, List.cons_append, order, ih hds' hes' hle hle', hfirst,
            Nat.succ_eq_add_one, filled_cons width d ds hle, filled_cons width e es hle',
            compare_mul_add (filled_lt hds' hle) (filled_lt hes' hle'), List.length_cons,
            List.length_cons, hlength, Ordering.then_assoc]

end Text

end ManifestRegistry
