/-
**Instants read back.**

Every field of an instant's text ends with a mark that is no digit, so each reader takes exactly the
digits of its field.

Main results:

* `Instant.digits_padded` — a padded numeral before a mark is read as its number;
* `Instant.ofFields?_eq_some` — an instant from the fields it is written with;
* `Instant.parse?_text` — **the text of an instant that a clock can show is read as the instant**.
-/

import ManifestRegistry.Instant.Format
import ManifestRegistry.Proofs.Instant.Calendar
import ManifestRegistry.Proofs.Instant.Reading
import ManifestRegistry.Proofs.Text.Decimal

set_option relaxedAutoImplicit false
set_option autoImplicit false

namespace ManifestRegistry

namespace Instant

/-! ### Fields -/

theorem takeWhile_isDigit {ds : List Char} (h : ∀ c ∈ ds, c.isDigit) {c : Char}
    (hc : c.isDigit = false) (cs : List Char) :
    (ds ++ c :: cs).takeWhile Char.isDigit = ds := by
  rw [List.takeWhile_append_of_pos h, List.takeWhile_cons_of_neg (by simp [hc]), List.append_nil]

/-- **A padded numeral before a mark is read as its number.** -/
theorem digits_padded {width limit n : Nat} {c : Char} (hc : c.isDigit = false) (cs : List Char)
    (hlen : (Text.padded width n).length ≤ limit) :
    digits limit (Text.padded width n ++ c :: cs) = some (n, c :: cs) := by
  have hne : Text.padded width n ≠ [] := List.length_pos_iff.1 (Text.length_padded_pos width n)
  have hdigits : ∀ d ∈ Text.padded width n, d.isDigit := fun d => Text.isDigit_of_mem_padded
  simp only [digits, takeWhile_isDigit hdigits hc, List.take_of_length_le hlen,
    Text.digitsValue?_eq_some hne hdigits, Text.digitsValue_padded, List.drop_left]

theorem isBlank_of_isDigit {c : Char} (h : c.isDigit) : Text.isBlank c = false := by
  obtain ⟨hlow, hhigh⟩ := Char.isDigit_iff_toNat.1 h
  have hlow' : 48 ≤ c.toNat := hlow
  have hhigh' : c.toNat ≤ 57 := hhigh
  simp only [Text.isBlank]
  simp
  omega

/-- There are no blanks before a padded numeral. -/
theorem dropBlanks_padded (width n : Nat) (cs : List Char) :
    Text.dropBlanks (Text.padded width n ++ cs) = Text.padded width n ++ cs := by
  obtain ⟨d, ds, hds⟩ := List.exists_cons_of_ne_nil
    (List.length_pos_iff.1 (Text.length_padded_pos width n))
  have hd : d.isDigit := Text.isDigit_of_mem_padded (hds ▸ List.mem_cons_self)
  rw [hds, List.cons_append, Text.dropBlanks,
    List.dropWhile_cons_of_neg (by simp [isBlank_of_isDigit hd])]

theorem field_padded {n : Nat} (hn : n < 100) {c : Char} (hc : c.isDigit = false)
    (cs : List Char) : field 2 (Text.padded 2 n ++ c :: cs) = some (n, c :: cs) := by
  rw [field, dropBlanks_padded,
    digits_padded hc cs (Nat.le_of_eq (Text.length_padded (by omega) hn))]

theorem mark_cons {c : Char} (hc : Text.isBlank c = false) (cs : List Char) :
    mark c (c :: cs) = some ((), cs) := by
  have hdrop : Text.dropBlanks (c :: cs) = c :: cs :=
    List.dropWhile_cons_of_neg (by simp [hc])
  simp only [mark, hdrop, if_true]

theorem yearField_yearChars (y : Int) (cs : List Char) :
    yearField (yearChars y ++ '-' :: cs) = some (y, '-' :: cs) := by
  unfold yearChars
  split
  · -- four digits without a sign
    rename_i h
    have hlen : (Text.padded 4 y.natAbs).length = 4 := Text.length_padded (by omega) (by omega)
    have hdigits := digits_padded (c := '-') rfl cs (Nat.le_of_eq hlen)
    have hback : (y.natAbs : Int) = y := by omega
    obtain ⟨d, ds, hds⟩ := List.exists_cons_of_ne_nil
      (List.length_pos_iff.1 (Text.length_padded_pos 4 y.natAbs))
    have hd : d.isDigit := Text.isDigit_of_mem_padded (hds ▸ List.mem_cons_self)
    unfold yearField
    rw [dropBlanks_padded]
    split
    · rename_i heq
      rw [hds, List.cons_append] at heq
      injection heq with heq
      subst heq
      cases hd
    · rename_i heq
      rw [hds, List.cons_append] at heq
      injection heq with heq
      subst heq
      cases hd
    · rw [hdigits]
      simp [hback]
  · -- a sign and at least four digits
    have hdash : '-'.isDigit = false := rfl
    have hlen : (Text.padded 4 y.natAbs).length ≤ (Text.padded 4 y.natAbs ++ '-' :: cs).length := by
      simp
    have hdigits := digits_padded hdash cs hlen
    split
    · rename_i hneg
      have hback : -(y.natAbs : Int) = y := by omega
      have hdrop : Text.dropBlanks ('-' :: (Text.padded 4 y.natAbs ++ '-' :: cs)) =
          '-' :: (Text.padded 4 y.natAbs ++ '-' :: cs) := rfl
      rw [List.cons_append, yearField, hdrop]
      simp only [hdigits, Option.map_some, hback]
    · rename_i hneg
      have hback : (y.natAbs : Int) = y := by omega
      have hdrop : Text.dropBlanks ('+' :: (Text.padded 4 y.natAbs ++ '-' :: cs)) =
          '+' :: (Text.padded 4 y.natAbs ++ '-' :: cs) := rfl
      rw [List.cons_append, yearField, hdrop]
      simp only [hdigits, Option.map_some, hback]

/-- Digits of a fraction before the mark of universal time. -/
theorem fractionField_point {width n : Nat} (hw : 0 < width) (h9 : width ≤ 9)
    (hn : n < 10 ^ width) :
    fractionField ('.' :: (Text.padded width n ++ ['Z'])) = some (n * 10 ^ (9 - width), ['Z']) := by
  have hlen := Text.length_padded hw hn
  have hmark : 'Z'.isDigit = false := rfl
  have hnine : (Text.padded width n).length ≤ 9 := by omega
  have hdigits := digits_padded hmark [] hnine
  have hread : (Text.padded width n ++ ['Z']).length - ['Z'].length = width := by
    simp [hlen]
  simp only [fractionField, hdigits, Option.map_some, hread]
  rfl

theorem fractionField_tail (i : Instant) :
    fractionField ((if i.fraction = 0 then []
      else if i.fraction % 1000000 = 0 then '.' :: Text.padded 3 (i.fraction / 1000000)
      else if i.fraction % 1000 = 0 then '.' :: Text.padded 6 (i.fraction / 1000)
      else '.' :: Text.padded 9 i.fraction) ++ ['Z']) = some (i.fraction, ['Z']) := by
  have hlt : i.fraction < 1000000000 := Nat.mod_lt _ (by omega)
  split
  · rename_i h
    rw [h]
    rfl
  split
  · rw [List.cons_append, fractionField_point (by omega) (by omega) (by omega)]
    simp only [Option.some.injEq, Prod.mk.injEq, and_true]
    omega
  split
  · rw [List.cons_append, fractionField_point (by omega) (by omega) (by omega)]
    simp only [Option.some.injEq, Prod.mk.injEq, and_true]
    omega
  · rw [List.cons_append, fractionField_point (by omega) (by omega) (by omega)]
    simp

/-! ### Instants -/

/-- An instant has a year that its text can show. -/
theorem year_bounds (i : Instant) :
    -262143 ≤ (Calendar.dateOf (i.seconds / 86400)).year ∧
      (Calendar.dateOf (i.seconds / 86400)).year ≤ 262142 := by
  have hlow := i.first_le
  have hhigh := i.lt_end
  unfold firstSecond at hlow
  unfold endSecond at hhigh
  have hle : -262143 ≤ Calendar.yearOf (i.seconds / 86400) := Calendar.le_yearOf (by omega)
  have hlt : Calendar.yearOf (i.seconds / 86400) < 262143 := Calendar.yearOf_lt (by omega)
  exact ⟨hle, by show Calendar.yearOf (i.seconds / 86400) ≤ 262142; omega⟩

/-- **An instant from the fields it is written with.** -/
theorem ofFields?_eq_some {i : Instant} (h : i.IsReading) :
    ofFields? (Calendar.dateOf (i.seconds / 86400)) ((i.seconds % 86400).toNat / 3600)
      ((i.seconds % 86400).toNat / 60 % 60)
      ((i.seconds % 86400).toNat % 60 + i.nanos / 1000000000) i.fraction 0 = some i := by
  have hnum := Calendar.number_dateOf (i.seconds / 86400)
  have hvalid := Calendar.isValid_dateOf (i.seconds / 86400)
  obtain ⟨hyear, hyear'⟩ := year_bounds i
  generalize Calendar.dateOf (i.seconds / 86400) = date at hnum hvalid hyear hyear'
  have hn := i.nanos_lt
  simp only [nanoLimit] at hn
  have hin : firstSecond ≤ i.seconds ∧ i.seconds < endSecond ∧ i.nanos < nanoLimit :=
    ⟨i.first_le, i.lt_end, i.nanos_lt⟩
  unfold ofFields?
  rw [if_pos ⟨hvalid, hyear, hyear', by omega, by omega, by omega, by omega, by omega⟩]
  by_cases hleap : 1000000000 ≤ i.nanos
  · -- the leap second behind the last second of a minute
    have hlast := h hleap
    have hsixty : (i.seconds % 86400).toNat % 60 + i.nanos / 1000000000 = 60 := by omega
    have hnanos : i.fraction + 1000000000 = i.nanos := by
      unfold fraction
      omega
    have hsecs : date.number * 86400 + ((3600 * ((i.seconds % 86400).toNat / 3600) +
        60 * ((i.seconds % 86400).toNat / 60 % 60) + 59 : Nat) : Int) - 60 * 0 = i.seconds := by
      omega
    simp only [hsixty, if_true, hnanos]
    rw [hsecs, ofParts?, dif_pos hin]
  · have hno : (i.seconds % 86400).toNat % 60 + i.nanos / 1000000000 ≠ 60 := by omega
    have hnanos : i.fraction = i.nanos := Nat.mod_eq_of_lt (by omega)
    have hsecs : date.number * 86400 + ((3600 * ((i.seconds % 86400).toNat / 3600) +
        60 * ((i.seconds % 86400).toNat / 60 % 60) +
        ((i.seconds % 86400).toNat % 60 + i.nanos / 1000000000) : Nat) : Int) - 60 * 0 =
        i.seconds := by
      omega
    simp only [hno, if_false, hnanos]
    rw [hsecs, ofParts?, dif_pos hin]

/-- **The text of an instant that a clock can show is read as the instant.** -/
theorem parse?_text {i : Instant} (h : i.IsReading) : parse? i.text = some i := by
  obtain ⟨hday, hmonth⟩ := Calendar.day_dateOf_le (i.seconds / 86400)
  have hfields := ofFields?_eq_some h
  have hn := i.nanos_lt
  simp only [nanoLimit] at hn
  rw [parse?, text, String.toList_ofList, chars, clockChars]
  simp only [List.append_assoc, List.cons_append]
  unfold parseChars?
  simp only [yearField_yearChars, mark_cons (c := '-') rfl, mark_cons (c := ':') rfl,
    field_padded (n := (Calendar.dateOf (i.seconds / 86400)).month) (by omega) (c := '-') rfl,
    field_padded (n := (Calendar.dateOf (i.seconds / 86400)).day) (by omega) (c := 'T') rfl,
    field_padded (n := (i.seconds % 86400).toNat / 3600) (by omega) (c := ':') rfl,
    field_padded (n := (i.seconds % 86400).toNat / 60 % 60) (by omega) (c := ':') rfl,
    Option.bind_eq_bind, Option.bind_some]
  -- what follows the seconds begins with a point or with the mark of universal time
  have hfraction := fractionField_tail i
  obtain ⟨c, cs, htail, hc⟩ : ∃ c cs, (if i.fraction = 0 then []
      else if i.fraction % 1000000 = 0 then '.' :: Text.padded 3 (i.fraction / 1000000)
      else if i.fraction % 1000 = 0 then '.' :: Text.padded 6 (i.fraction / 1000)
      else '.' :: Text.padded 9 i.fraction) ++ ['Z'] = c :: cs ∧ c.isDigit = false := by
    split
    · exact ⟨'Z', [], rfl, rfl⟩
    split
    · exact ⟨'.', _, rfl, rfl⟩
    split
    · exact ⟨'.', _, rfl, rfl⟩
    · exact ⟨'.', _, rfl, rfl⟩
  have hsecond := field_padded (n := (i.seconds % 86400).toNat % 60 + i.nanos / 1000000000)
    (by omega) hc cs
  rw [htail] at hfraction ⊢
  have hoffset : offsetField ['Z'] = some (0, []) := rfl
  have hend : Text.dropBlanks [] = [] := rfl
  simp only [hsecond, hfraction, hoffset, hend, Option.bind_some, if_true, hfields]

end Instant

end ManifestRegistry
