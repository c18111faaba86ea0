/-
**Stamps in order.**

A stamp begins with the year and has the same marks in the same places behind it, with numerals of the same
width between them.  So stamps are ordered as texts by the years first, and within a year in the way the
instants are ordered in time.  Years from 0 to 9999 are written with four digits and are in their own order.
The sign of any other year puts its stamps before all these, even that of a later one.  Behind the sign the
numerals, which may differ in width, are compared as if they were filled up with zeros behind, and those of
early years run backwards.

Main definitions:

* `Instant.InEra` — an instant in the years that are written without a sign;
* `Instant.yearOrder` — the order of years in texts;
* `Instant.Climbs` — a year comes before a later one in texts, too;
* `Record.InEra` — a record published and last changed in the years without a sign.

Main results:

* `Instant.yearOrder_eq_compare_iff` — when the order of years in texts is their own;
* `Instant.order_stampChars` — **stamps are compared by the order of years in texts first**;
* `Instant.order_stampChars_iff` — stamps without signs are in the order of the instants;
* `Instant.order_stampChars_of_signed` — stamps with signs are before all those;
* `Instant.before_stamp` — **an earlier stamp is that of an earlier instant**;
* `Instant.order_stampChars_of_earlier` — before the year 0, it may be that of a later one.
-/

import ManifestRegistry.Proofs.Instant.Format

set_option relaxedAutoImplicit false
set_option autoImplicit false

namespace ManifestRegistry

namespace Instant

/-! ### Years -/

/-- The year of an instant. -/
def year (i : Instant) : Int := Calendar.yearOf (i.seconds / 86400)

/-- An instant in the years that are written without a sign. -/
def InEra (i : Instant) : Prop := 0 ≤ i.year ∧ i.year ≤ 9999

instance (i : Instant) : Decidable i.InEra := by
  unfold InEra
  infer_instance

/-- What is not later is not in a later year. -/
theorem year_mono {a b : Instant} (h : a.seconds ≤ b.seconds) : a.year ≤ b.year := by
  have hhigh := (Calendar.yearOf_bounds (b.seconds / 86400)).2
  have hlt : a.year < b.year + 1 := Calendar.yearOf_lt (by unfold year; omega)
  omega

/-- An instant in an earlier year is before all those in later years. -/
theorem order_of_year_lt {a b : Instant} (h : a.year < b.year) :
    a.order b = .lt ∧ b.order a ≠ .lt := by
  have hless : a.seconds < b.seconds := Int.not_le.1 fun hle => Int.not_le.2 h (year_mono hle)
  simp only [order, Ordering.then_eq_lt, ne_eq, Int.compare_eq_lt, Int.compare_eq_eq]
  omega

/-! ### Years in texts -/

/-- Years beyond 9999 have a plus, years before 0 a minus and the others nothing before their numerals,
and in this order they come in texts. -/
def signRank (y : Int) : Nat := if 9999 < y then 0 else if y < 0 then 1 else 2

/-- A year's numeral, which has four digits or more, filled up with zeros behind to six. -/
def leading (n : Nat) : Nat := if n < 10000 then n * 100 else if n < 100000 then n * 10 else n

theorem signRank_spec (y : Int) :
    9999 < y ∧ signRank y = 0 ∨ y < 0 ∧ signRank y = 1 ∨ (0 ≤ y ∧ y ≤ 9999) ∧ signRank y = 2 := by
  unfold signRank
  split
  · exact .inl ⟨‹_›, rfl⟩
  · split
    · exact .inr (.inl ⟨‹_›, rfl⟩)
    · exact .inr (.inr ⟨by omega, rfl⟩)

theorem leading_spec (n : Nat) : n < 10000 ∧ leading n = n * 100 ∨
    (10000 ≤ n ∧ n < 100000) ∧ leading n = n * 10 ∨ 100000 ≤ n ∧ leading n = n := by
  unfold leading
  split
  · exact .inl ⟨‹_›, rfl⟩
  · split
    · exact .inr (.inl ⟨by omega, rfl⟩)
    · exact .inr (.inr ⟨by omega, rfl⟩)

/-- The order of years in texts. -/
def yearOrder (y z : Int) : Ordering :=
  (compare (signRank y) (signRank z)).then
    ((compare (leading y.natAbs) (leading z.natAbs)).then (compare y.natAbs z.natAbs))

theorem yearOrder_swap (y z : Int) : (yearOrder y z).swap = yearOrder z y := by
  simp only [yearOrder, Ordering.swap_then, Nat.compare_swap]

theorem yearOrder_self (y : Int) : yearOrder y y = .eq := by
  simp only [yearOrder, Nat.compare_eq_eq.2, Ordering.eq_then]

/-- The year `y` comes before the later year `z` in texts, too. -/
def Climbs (y z : Int) : Prop :=
  (0 ≤ z ∧ z ≤ 9999) ∨
    (9999 < y ∧ leading y.natAbs ≤ leading z.natAbs) ∨
    (z < 0 ∧ leading y.natAbs < leading z.natAbs)

theorem yearOrder_eq_lt_iff {y z : Int} (h : y < z) : yearOrder y z = .lt ↔ Climbs y z := by
  have hrank := signRank_spec y
  have hrank' := signRank_spec z
  have hleading := leading_spec y.natAbs
  have hleading' := leading_spec z.natAbs
  simp only [yearOrder, Climbs, Ordering.then_eq_lt, Nat.compare_eq_lt, Nat.compare_eq_eq]
  omega

/-- Years are in their order in texts exactly if the later one does not come first. -/
theorem yearOrder_eq_compare_iff {y z : Int} :
    yearOrder y z = compare y z ↔ (y < z → Climbs y z) ∧ (z < y → Climbs z y) := by
  rcases Int.lt_trichotomy y z with h | rfl | h
  · rw [Int.compare_eq_lt.2 h, yearOrder_eq_lt_iff h]
    exact ⟨fun hclimbs => ⟨fun _ => hclimbs, fun hback => absurd hback (Int.lt_asymm h)⟩,
      fun hclimbs => hclimbs.1 h⟩
  · rw [yearOrder_self, Int.compare_eq_eq.2 rfl]
    exact ⟨fun _ => ⟨fun hlt => absurd hlt (Int.lt_irrefl y), fun hlt => absurd hlt (Int.lt_irrefl y)⟩,
      fun _ => rfl⟩
  · rw [Int.compare_eq_gt.2 h, ← yearOrder_swap, Ordering.swap_eq_gt, yearOrder_eq_lt_iff h]
    exact ⟨fun hclimbs => ⟨fun hback => absurd hback (Int.lt_asymm h), fun _ => hclimbs⟩,
      fun hclimbs => hclimbs.2 h⟩

theorem yearOrder_eq_eq_iff {y z : Int} : yearOrder y z = .eq ↔ y = z := by
  constructor
  · intro h
    have hrank := signRank_spec y
    have hrank' := signRank_spec z
    simp only [yearOrder, Ordering.then_eq_eq, Nat.compare_eq_eq] at h
    omega
  · rintro rfl
    exact yearOrder_self y

/-- Where years differ, nothing behind them counts. -/
theorem yearOrder_then {y z : Int} (h : y ≠ z) (o : Ordering) : (yearOrder y z).then o = yearOrder y z := by
  cases hyears : yearOrder y z with
  | lt => rfl
  | gt => rfl
  | eq => exact absurd (yearOrder_eq_eq_iff.1 hyears) h

/-- A year's numeral has four digits, or five or six if it needs them. -/
theorem length_padded_year {n : Nat} (h : n < 1000000) :
    n < 10000 ∧ (Text.padded 4 n).length = 4 ∨
    (10000 ≤ n ∧ n < 100000) ∧ (Text.padded 4 n).length = 5 ∨
    100000 ≤ n ∧ (Text.padded 4 n).length = 6 := by
  have hlen (k : Nat) (hk : 0 < k) : (Nat.toDigits 10 n).length ≤ k ↔ n < 10 ^ k :=
    Nat.length_toDigits_le_iff (by omega) hk
  have hfour := hlen 4 (by omega)
  have hfive := hlen 5 (by omega)
  have hsix := hlen 6 (by omega)
  rw [Text.padded, List.length_append, List.length_replicate]
  omega

theorem filled_padded_year {n : Nat} (h : n < 1000000) :
    Text.filled 6 (Text.padded 4 n) = leading n := by
  have hleading := leading_spec n
  rw [Text.filled, Text.digitsValue_padded]
  rcases length_padded_year h with ⟨hn, hlen⟩ | ⟨hn, hlen⟩ | ⟨hn, hlen⟩ <;> rw [hlen] <;> omega

/-- Years' numerals of different widths before a mark. -/
theorem order_numerals {m n : Nat} (hm : m < 1000000) (hn : n < 1000000) (as bs : List Char) :
    Text.order (Text.padded 4 m ++ '-' :: as) (Text.padded 4 n ++ '-' :: bs) =
      (compare (leading m) (leading n)).then ((compare m n).then (Text.order as bs)) := by
  have hlen := length_padded_year hm
  have hlen' := length_padded_year hn
  have hsix : (Text.padded 4 m).length ≤ 6 := by omega
  have hsix' : (Text.padded 4 n).length ≤ 6 := by omega
  rw [Text.order_filled (by decide) (fun _ => Text.isDigit_of_mem_padded)
    (fun _ => Text.isDigit_of_mem_padded) hsix hsix', filled_padded_year hm, filled_padded_year hn]
  rcases Nat.lt_trichotomy (leading m) (leading n) with h | h | h
  · rw [Nat.compare_eq_lt.2 h, Ordering.lt_then, Ordering.lt_then]
  · -- then the wider numeral is that of the greater number
    have hleading := leading_spec m
    have hleading' := leading_spec n
    have hwidth : compare (Text.padded 4 m).length (Text.padded 4 n).length = compare m n := by
      rcases Nat.lt_trichotomy m n with hlt | rfl | hgt
      · rw [Nat.compare_eq_lt.2 hlt, Nat.compare_eq_lt.2 (by omega)]
      · rw [Nat.compare_eq_eq.2 rfl, Nat.compare_eq_eq.2 rfl]
      · rw [Nat.compare_eq_gt.2 hgt, Nat.compare_eq_gt.2 (by omega)]
    rw [hwidth]
  · rw [Nat.compare_eq_gt.2 h, Ordering.gt_then, Ordering.gt_then]

theorem yearChars_of_signed {y : Int} (h : signRank y < 2) :
    yearChars y = (if y < 0 then '-' else '+') :: Text.padded 4 y.natAbs := by
  have hrank := signRank_spec y
  rw [yearChars, if_neg (by omega)]

theorem yearChars_of_plain {y : Int} (h : signRank y = 2) : yearChars y = Text.padded 4 y.natAbs := by
  have hrank := signRank_spec y
  rw [yearChars, if_pos (by omega)]

/-- A sign is before every digit. -/
theorem order_sign (y : Int) (n : Nat) (as bs : List Char) :
    Text.order ((if y < 0 then '-' else '+') :: as) (Text.padded 4 n ++ bs) = .lt := by
  obtain ⟨d, ds, hds⟩ := List.exists_cons_of_ne_nil
    (List.length_pos_iff.1 (Text.length_padded_pos 4 n))
  have hdigit : d.isDigit := Text.isDigit_of_mem_padded (hds ▸ List.mem_cons_self)
  have hlow : 48 ≤ d.toNat := (Char.isDigit_iff_toNat.1 hdigit).1
  have hsign : (if y < 0 then '-' else '+').toNat < 48 := by split <;> decide
  rw [hds, List.cons_append, Text.order, Nat.compare_eq_lt.2 (by omega), Ordering.lt_then]

/-- The plus is before the minus. -/
theorem compare_sign {y z : Int} (hy : signRank y < 2) (hz : signRank z < 2) :
    compare (if y < 0 then '-' else '+').toNat (if z < 0 then '-' else '+').toNat =
      compare (signRank y) (signRank z) := by
  have hcode {y : Int} (h : signRank y < 2) : (if y < 0 then '-' else '+').toNat = 43 + 2 * signRank y := by
    rcases signRank_spec y with ⟨hy, hrank⟩ | ⟨hy, hrank⟩ | ⟨-, hrank⟩
    · rw [if_neg (by omega), hrank]
      rfl
    · rw [if_pos hy, hrank]
      rfl
    · omega
  rw [hcode hy, hcode hz]
  simp only [Nat.compare_eq_ite_lt, Nat.add_lt_add_iff_left, Nat.mul_lt_mul_left (by omega : 0 < 2)]

/-- **Years before a mark are in the order of years in texts.** -/
theorem order_yearChars {y z : Int} (hy : y.natAbs < 1000000) (hz : z.natAbs < 1000000)
    (as bs : List Char) :
    Text.order (yearChars y ++ '-' :: as) (yearChars z ++ '-' :: bs) =
      (yearOrder y z).then (Text.order as bs) := by
  have hrank := signRank_spec y
  have hrank' := signRank_spec z
  rw [yearOrder, Ordering.then_assoc, Ordering.then_assoc]
  by_cases hplain : signRank y = 2 <;> by_cases hplain' : signRank z = 2
  · rw [yearChars_of_plain hplain, yearChars_of_plain hplain', order_numerals hy hz,
      Nat.compare_eq_eq.2 (hplain.trans hplain'.symm), Ordering.eq_then]
  · rw [yearChars_of_plain hplain, yearChars_of_signed (by omega), ← Text.order_swap,
      List.cons_append, order_sign, Nat.compare_eq_gt.2 (by omega), Ordering.gt_then]
    rfl
  · rw [yearChars_of_signed (by omega), yearChars_of_plain hplain', List.cons_append, order_sign,
      Nat.compare_eq_lt.2 (by omega), Ordering.lt_then]
  · rw [yearChars_of_signed (by omega), yearChars_of_signed (by omega), List.cons_append,
      List.cons_append, Text.order, compare_sign (by omega) (by omega), order_numerals hy hz]

/-! ### What stamps show -/

/-- Two marks with numerals of one width before them are compared by the numerals first. -/
theorem order_field {width m n : Nat} (hw : 0 < width) (hm : m < 10 ^ width) (hn : n < 10 ^ width)
    (c : Char) (as bs : List Char) :
    Text.order (Text.padded width m ++ c :: as) (Text.padded width n ++ c :: bs) =
      (compare m n).then (Text.order as bs) := by
  rw [Text.order_append ((Text.length_padded hw hm).trans (Text.length_padded hw hn).symm),
    Text.order_padded hw hm hn, Text.order_cons_self]

theorem shown_bounds (i : Instant) :
    (Calendar.dateOf (i.seconds / 86400)).month < 10 ^ 2 ∧
      (Calendar.dateOf (i.seconds / 86400)).day < 10 ^ 2 ∧
      (i.seconds % 86400).toNat / 3600 < 10 ^ 2 ∧ (i.seconds % 86400).toNat / 60 % 60 < 10 ^ 2 ∧
      (i.seconds % 86400).toNat % 60 + i.nanos / 1000000000 < 10 ^ 2 ∧ i.fraction < 10 ^ 9 := by
  obtain ⟨hday, hmonth⟩ := Calendar.day_dateOf_le (i.seconds / 86400)
  have hn := i.nanos_lt
  unfold nanoLimit at hn
  unfold fraction
  omega

/-- What a stamp shows behind the year. -/
def afterYear (i : Instant) : List Char :=
  Text.padded 2 (Calendar.dateOf (i.seconds / 86400)).month ++
    '-' :: (Text.padded 2 (Calendar.dateOf (i.seconds / 86400)).day ++
    'T' :: (Text.padded 2 ((i.seconds % 86400).toNat / 3600) ++
    ':' :: (Text.padded 2 ((i.seconds % 86400).toNat / 60 % 60) ++
    ':' :: (Text.padded 2 ((i.seconds % 86400).toNat % 60 + i.nanos / 1000000000) ++
    '.' :: (Text.padded 9 i.fraction ++ ['Z'])))))

theorem stampChars_eq (i : Instant) : i.stampChars = yearChars i.year ++ '-' :: i.afterYear := by
  simp only [stampChars, clockChars, afterYear, List.append_assoc, List.cons_append]
  rfl

theorem order_afterYear (a b : Instant) :
    Text.order a.afterYear b.afterYear =
      (compare (Calendar.dateOf (a.seconds / 86400)).month
        (Calendar.dateOf (b.seconds / 86400)).month).then
      ((compare (Calendar.dateOf (a.seconds / 86400)).day
        (Calendar.dateOf (b.seconds / 86400)).day).then
      ((compare ((a.seconds % 86400).toNat / 3600) ((b.seconds % 86400).toNat / 3600)).then
      ((compare ((a.seconds % 86400).toNat / 60 % 60) ((b.seconds % 86400).toNat / 60 % 60)).then
      ((compare ((a.seconds % 86400).toNat % 60 + a.nanos / 1000000000)
        ((b.seconds % 86400).toNat % 60 + b.nanos / 1000000000)).then
      (compare a.fraction b.fraction))))) := by
  obtain ⟨hmonth, hday, hhour, hminute, hsecond, hfraction⟩ := a.shown_bounds
  obtain ⟨hmonth', hday', hhour', hminute', hsecond', hfraction'⟩ := b.shown_bounds
  unfold afterYear
  rw [order_field (by omega) hmonth hmonth', order_field (by omega) hday hday',
    order_field (by omega) hhour hhour', order_field (by omega) hminute hminute',
    order_field (by omega) hsecond hsecond', Text.order_append ((Text.length_padded (by omega)
      hfraction).trans (Text.length_padded (by omega) hfraction').symm),
    Text.order_padded (by omega) hfraction hfraction', Text.order_self, Ordering.then_eq]

/-- Within a day, time is in the order of hours, minutes, seconds and fractions, a leap second being the
sixtieth second of its minute. -/
theorem clock_lt_iff (h h' f f' : Nat) {m s l m' s' l' : Nat} (hm : m < 60) (hm' : m' < 60)
    (hs : s < 60) (hs' : s' < 60) (hl : l = 0 ∨ l = 1 ∧ s = 59) (hl' : l' = 0 ∨ l' = 1 ∧ s' = 59)
    (hf : f < 1000000000) (hf' : f' < 1000000000) :
    (3600 * h + 60 * m + s < 3600 * h' + 60 * m' + s' ∨
      3600 * h + 60 * m + s = 3600 * h' + 60 * m' + s' ∧
        1000000000 * l + f < 1000000000 * l' + f') ↔
      (h < h' ∨ h = h' ∧ (m < m' ∨ m = m' ∧ (s + l < s' + l' ∨ s + l = s' + l' ∧ f < f'))) := by
  rcases Nat.lt_trichotomy h h' with hlt | rfl | hgt
  · omega
  · rcases Nat.lt_trichotomy m m' with hlt | rfl | hgt <;> omega
  · omega

/-- The parts of the time of day make up the seconds of the day and the nanoseconds. -/
theorem clock_eq (i : Instant) (hi : i.IsReading) :
    3600 * ((i.seconds % 86400).toNat / 3600) + 60 * ((i.seconds % 86400).toNat / 60 % 60) +
        (i.seconds % 86400).toNat % 60 = (i.seconds % 86400).toNat ∧
      1000000000 * (i.nanos / 1000000000) + i.fraction = i.nanos ∧
      (i.nanos / 1000000000 = 0 ∨
        i.nanos / 1000000000 = 1 ∧ (i.seconds % 86400).toNat % 60 = 59) := by
  have hn := i.nanos_lt
  unfold nanoLimit at hn
  unfold IsReading at hi
  unfold fraction
  omega

/-- Within a year, what stamps show is in the order of the instants. -/
theorem order_afterYear_iff {a b : Instant} (hyear : a.year = b.year) (hra : a.IsReading)
    (hrb : b.IsReading) : Text.order a.afterYear b.afterYear = .lt ↔ a.order b = .lt := by
  obtain ⟨hclock, hnanos, hleap⟩ := a.clock_eq hra
  obtain ⟨hclock', hnanos', hleap'⟩ := b.clock_eq hrb
  have hlt := clock_lt_iff ((a.seconds % 86400).toNat / 3600) ((b.seconds % 86400).toNat / 3600)
    a.fraction b.fraction (Nat.mod_lt ((a.seconds % 86400).toNat / 60) (by omega))
    (Nat.mod_lt ((b.seconds % 86400).toNat / 60) (by omega)) (Nat.mod_lt _ (by omega))
    (Nat.mod_lt _ (by omega)) hleap hleap' (Nat.mod_lt _ (by omega)) (Nat.mod_lt _ (by omega))
  rw [hclock, hclock', hnanos, hnanos'] at hlt
  have hsame : (Calendar.dateOf (a.seconds / 86400)).year =
      (Calendar.dateOf (b.seconds / 86400)).year := hyear
  rw [order_afterYear]
  simp only [Ordering.then_eq_lt, Nat.compare_eq_lt, Nat.compare_eq_eq, order, Int.compare_eq_lt,
    Int.compare_eq_eq]
  rw [← hlt]
  clear hlt hclock hclock' hnanos hnanos' hleap hleap'
  rcases Int.lt_trichotomy (a.seconds / 86400) (b.seconds / 86400) with h | h | h
  · have hdate := Calendar.before_dateOf h
    unfold Calendar.Date.Before at hdate
    omega
  · rw [congrArg Calendar.dateOf h]
    omega
  · have hdate := Calendar.before_dateOf h
    unfold Calendar.Date.Before at hdate
    omega

/-- **Stamps are compared by the years first**, in the order that years have in texts. -/
theorem order_stampChars (a b : Instant) :
    Text.order a.stampChars b.stampChars =
      (yearOrder a.year b.year).then (Text.order a.afterYear b.afterYear) := by
  have hbound (i : Instant) : i.year.natAbs < 1000000 := by
    obtain ⟨hlow, hhigh⟩ := i.year_bounds
    unfold year
    have hyear : (Calendar.dateOf (i.seconds / 86400)).year = Calendar.yearOf (i.seconds / 86400) :=
      rfl
    omega
  rw [stampChars_eq, stampChars_eq, order_yearChars (hbound a) (hbound b)]

/-! ### Stamps without signs -/

theorem yearOrder_of_inEra {a b : Instant} (ha : a.InEra) (hb : b.InEra) :
    yearOrder a.year b.year = compare a.year b.year :=
  yearOrder_eq_compare_iff.2 ⟨fun _ => .inl hb, fun _ => .inl ha⟩

/-- **Stamps without signs are in the order of the instants.** -/
theorem order_stampChars_iff {a b : Instant} (ha : a.InEra) (hb : b.InEra) (hra : a.IsReading)
    (hrb : b.IsReading) :
    Text.order a.stampChars b.stampChars = .lt ↔ a.order b = .lt := by
  rw [order_stampChars, yearOrder_of_inEra ha hb]
  rcases Int.lt_trichotomy a.year b.year with h | h | h
  · rw [Int.compare_eq_lt.2 h, Ordering.lt_then]
    exact iff_of_true rfl (order_of_year_lt h).1
  · rw [Int.compare_eq_eq.2 h, Ordering.eq_then]
    exact order_afterYear_iff h hra hrb
  · rw [Int.compare_eq_gt.2 h, Ordering.gt_then]
    exact iff_of_false (fun he => nomatch he) (order_of_year_lt h).2

/-! ### Stamps with signs -/

/-- A stamp with a sign is before all those without one. -/
theorem order_stampChars_of_signed {a b : Instant} (ha : ¬a.InEra) (hb : b.InEra) :
    Text.order a.stampChars b.stampChars = .lt ∧ Text.order b.stampChars a.stampChars ≠ .lt := by
  have hlt : Text.order a.stampChars b.stampChars = .lt := by
    have hrank := signRank_spec a.year
    have hrank' := signRank_spec b.year
    unfold InEra at ha hb
    rw [order_stampChars, yearOrder, Nat.compare_eq_lt.2 (by omega), Ordering.lt_then,
      Ordering.lt_then]
  refine ⟨hlt, ?_⟩
  rw [← Text.order_swap, hlt]
  decide

/-- **An earlier stamp is that of an earlier instant.**  One of the two may be an instant before the
year 0. -/
theorem before_stamp {a b : Instant} (ha : a.year ≤ 9999) (hb : b.year ≤ 9999)
    (hera : a.InEra ∨ b.InEra) (hra : a.IsReading) (hrb : b.IsReading) :
    Text.before a.stamp b.stamp = a.before b := by
  have hiff : Text.order a.stampChars b.stampChars = .lt ↔ a.order b = .lt := by
    by_cases hlow : 0 ≤ a.year
    · by_cases hlow' : 0 ≤ b.year
      · exact order_stampChars_iff ⟨hlow, ha⟩ ⟨hlow', hb⟩ hra hrb
      · -- the second one is before the year 0, and so is its stamp
        exact iff_of_false (order_stampChars_of_signed (fun h => hlow' h.1) ⟨hlow, ha⟩).2
          (order_of_year_lt (Int.lt_of_lt_of_le (Int.not_le.1 hlow') hlow)).2
    · rcases hera with h | hera
      · exact absurd h.1 hlow
      · exact iff_of_true (order_stampChars_of_signed (fun h => hlow h.1) hera).1
          (order_of_year_lt (Int.lt_of_lt_of_le (Int.not_le.1 hlow) hera.1)).1
  simp only [Text.before, before, stamp, String.toList_ofList, hiff]

/-! ### Stamps before the year 0 -/

/-- Before the year 0 the order is turned round: every year has its stamps behind those of the last one. -/
theorem order_stampChars_of_earlier {a b : Instant} (ha : a.year < -1) (hb : b.year = -1) :
    Text.order a.stampChars b.stampChars = .gt := by
  have hrank := signRank_spec a.year
  have hrank' := signRank_spec b.year
  have hleading := leading_spec a.year.natAbs
  have hleading' := leading_spec b.year.natAbs
  rw [order_stampChars, yearOrder, Nat.compare_eq_eq.2 (by omega), Nat.compare_eq_gt.2 (by omega)]
  rfl

/-- The last year before the year 0 has its stamps before those of the first year that there is. -/
theorem order_stampChars_last_first {a b : Instant} (ha : a.year = -1) (hb : b.year = -262143) :
    Text.order a.stampChars b.stampChars = .lt := by
  rw [order_stampChars, ha, hb]
  rfl

end Instant

/-- A record published and last changed in the years that are written without a sign. -/
structure Record.InEra (r : Record) : Prop where
  published : r.publishedAt.InEra
  updated : r.updatedAt.InEra

end ManifestRegistry
