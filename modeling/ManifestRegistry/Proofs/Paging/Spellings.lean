/-
**Texts that are read as cursors.**

Base64 is read strictly: digits are read as bytes only if they are what the bytes are written as.  The
numeral in it is read leniently: it may have a plus sign and zeros in front.  So every place has more texts
than the one that is handed out for it, and whatever is no spelling of a place is refused.

Main definitions:

* `Text.Spelling` — a plus sign or none, and zeros, in front of a numeral;
* `Cursor.spelled` — the text of a place whose numeral is spelled in some way.

Main results:

* `Base64.decode_eq_some_iff` — **digits are read as the bytes that they are written for**;
* `Text.natural?_eq_some_iff` — a numeral is read as the number that it is a spelling of;
* `Cursor.parse?_eq_some_iff` — a text is read as the place that it is a spelling of;
* `Cursor.issued_iff` — **which texts are cursors, and which of them are handed out**.
-/

import ManifestRegistry.Proofs.Paging.Cursors

set_option relaxedAutoImplicit false
set_option autoImplicit false

namespace ManifestRegistry

/-! ### Digits of bytes -/

namespace Base64

theorem digit_of_value? {c : Char} {n : Nat} (h : value? c = some n) : n < 64 ∧ digit n = c := by
  have hback : Char.ofNat c.toNat = c := Char.ofNat_toNat c
  simp only [value?] at h
  -- one case for each run of the alphabet
  split at h
  · obtain rfl := Option.some_inj.1 h
    refine ⟨by omega, ?_⟩
    rw [digit, if_pos (by omega), show 65 + (c.toNat - 65) = c.toNat by omega, hback]
  split at h
  · obtain rfl := Option.some_inj.1 h
    refine ⟨by omega, ?_⟩
    rw [digit, if_neg (by omega), if_pos (by omega), show 71 + (c.toNat - 71) = c.toNat by omega,
      hback]
  split at h
  · obtain rfl := Option.some_inj.1 h
    refine ⟨by omega, ?_⟩
    rw [digit, if_neg (by omega), if_neg (by omega), if_pos (by omega), Nat.add_sub_cancel, hback]
  split at h
  · rename_i hdash
    obtain rfl := Option.some_inj.1 h
    exact ⟨by omega, hdash.symm⟩
  split at h
  · rename_i hlow
    obtain rfl := Option.some_inj.1 h
    exact ⟨by omega, hlow.symm⟩
  · cases h

theorem map_digit_of_values? {cs : List Char} {vs : List Nat} (h : values? cs = some vs) :
    vs.map digit = cs ∧ ∀ v ∈ vs, v < 64 := by
  induction cs generalizing vs with
  | nil =>
      obtain rfl := Option.some_inj.1 h
      exact ⟨rfl, fun v hv => absurd hv List.not_mem_nil⟩
  | cons c cs ih =>
      rw [values?] at h
      cases hc : value? c with
      | none =>
          rw [hc] at h
          cases h
      | some v =>
          rw [hc] at h
          obtain ⟨ws, hws, rfl⟩ := Option.map_eq_some_iff.1 h
          obtain ⟨hlt, hdigit⟩ := digit_of_value? hc
          obtain ⟨hmap, hall⟩ := ih hws
          refine ⟨by rw [List.map_cons, hdigit, hmap], ?_⟩
          intro w hw
          rcases List.mem_cons.1 hw with rfl | hw
          · exact hlt
          · exact hall w hw

/-- Numbers below 64 are those of the digits that their bytes are written with. -/
theorem encode_of_bytes? {vs bs : List Nat} (h : bytes? vs = some bs) (hvs : ∀ v ∈ vs, v < 64) :
    encode bs = vs.map digit ∧ ∀ b ∈ bs, b < 256 := by
  -- four numbers at a time, with none, two or three left at the end
  fun_induction bytes? vs generalizing bs with
  | case1 w x y z rest ih =>
      obtain ⟨more, hmore, rfl⟩ := Option.map_eq_some_iff.1 h
      have hw := hvs w (by simp)
      have hx := hvs x (by simp)
      have hy := hvs y (by simp)
      have hz := hvs z (by simp)
      obtain ⟨hrest, hbytes⟩ := ih hmore fun v hv => hvs v (by simp [hv])
      have h₁ : (w * 4 + x / 16) / 4 = w := by omega
      have h₂ : (w * 4 + x / 16) % 4 * 16 + (x % 16 * 16 + y / 4) / 16 = x := by omega
      have h₃ : (x % 16 * 16 + y / 4) % 16 * 4 + (y % 4 * 64 + z) / 64 = y := by omega
      have h₄ : (y % 4 * 64 + z) % 64 = z := by omega
      refine ⟨by simp only [encode, h₁, h₂, h₃, h₄, hrest, List.map_cons], ?_⟩
      intro b hb
      simp only [List.mem_cons] at hb
      rcases hb with rfl | rfl | rfl | hb
      · omega
      · omega
      · omega
      · exact hbytes b hb
  | case2 w x y hzero =>
      obtain rfl := Option.some_inj.1 h
      have hw := hvs w (by simp)
      have hx := hvs x (by simp)
      have hy := hvs y (by simp)
      have h₁ : (w * 4 + x / 16) / 4 = w := by omega
      have h₂ : (w * 4 + x / 16) % 4 * 16 + (x % 16 * 16 + y / 4) / 16 = x := by omega
      have h₃ : (x % 16 * 16 + y / 4) % 16 * 4 = y := by omega
      refine ⟨by simp only [encode, h₁, h₂, h₃, List.map_cons, List.map_nil], ?_⟩
      intro b hb
      simp only [List.mem_cons, List.not_mem_nil, or_false] at hb
      omega
  | case4 w x hzero =>
      obtain rfl := Option.some_inj.1 h
      have hw := hvs w (by simp)
      have hx := hvs x (by simp)
      have h₁ : (w * 4 + x / 16) / 4 = w := by omega
      have h₂ : (w * 4 + x / 16) % 4 * 16 = x := by omega
      refine ⟨by simp only [encode, h₁, h₂, List.map_cons, List.map_nil], ?_⟩
      intro b hb
      simp only [List.mem_cons, List.not_mem_nil, or_false] at hb
      omega
  | case3 | case5 | case6 => cases h
  | case7 =>
      obtain rfl := Option.some_inj.1 h
      exact ⟨rfl, fun b hb => absurd hb List.not_mem_nil⟩

/-- **Digits are read as bytes exactly if they are what the bytes are written as.** -/
theorem decode_eq_some_iff {cs : List Char} {bs : List Nat} :
    decode cs = some bs ↔ cs = encode bs ∧ ∀ b ∈ bs, b < 256 := by
  constructor
  · intro h
    obtain ⟨vs, hvs, hbs⟩ := Option.bind_eq_some_iff.1 h
    obtain ⟨hdigits, hlt⟩ := map_digit_of_values? hvs
    obtain ⟨hencode, hbytes⟩ := encode_of_bytes? hbs hlt
    exact ⟨hdigits.symm.trans hencode.symm, hbytes⟩
  · rintro ⟨rfl, hbytes⟩
    exact decode_encode hbytes

end Base64

/-! ### Spellings of a number -/

namespace Text

/-- Digits have the value of a number exactly if they are its numeral with zeros in front. -/
theorem digitsValue?_eq_some_iff_zeros {ds : List Char} {n : Nat} :
    digitsValue? ds = some n ↔ ∃ zeros, ds = List.replicate zeros '0' ++ Nat.toDigits 10 n := by
  constructor
  · -- a zero in front is taken off as long as it is superfluous
    intro h
    induction ds with
    | nil => simp [digitsValue?] at h
    | cons d ds ih =>
        by_cases hplain : d ≠ '0' ∨ ds = []
        · refine ⟨0, eq_toDigits_iff.2 ⟨?_, h⟩⟩
          rcases hplain with hd | rfl
          · exact .inl fun he => hd (Option.some_inj.1 he)
          · exact .inr rfl
        · obtain ⟨hd, hne⟩ := not_or.1 hplain
          obtain rfl : d = '0' := Classical.not_not.1 hd
          obtain ⟨⟨-, hdigits⟩, hvalue⟩ := digitsValue?_eq_some_iff.1 h
          have hrest : digitsValue? ds = some n := by
            refine digitsValue?_eq_some_iff.2
              ⟨⟨hne, fun c hc => hdigits c (List.mem_cons_of_mem _ hc)⟩, ?_⟩
            rw [← hvalue, digitsValue_cons]
            exact (Nat.zero_add _).symm.trans (by rw [show digitValue '0' = 0 from rfl, Nat.zero_mul])
          obtain ⟨zeros, rfl⟩ := ih hrest
          exact ⟨zeros + 1, rfl⟩
  · rintro ⟨zeros, rfl⟩
    -- these digits are the numeral padded to their own number
    have hpadded : List.replicate zeros '0' ++ Nat.toDigits 10 n =
        padded (zeros + (Nat.toDigits 10 n).length) n := by
      rw [padded, Nat.add_sub_cancel]
    rw [hpadded]
    refine digitsValue?_eq_some_iff.2 ⟨⟨?_, fun _ => isDigit_of_mem_padded⟩, digitsValue_padded _ n⟩
    exact List.length_pos_iff.1 (length_padded_pos _ n)

/-- What may stand in front of a numeral: a plus sign or none, and zeros. -/
structure Spelling where
  plus : Bool
  zeros : Nat
deriving DecidableEq

namespace Spelling

/-- Nothing in front of a numeral. -/
def plain : Spelling := ⟨false, 0⟩

/-- The numeral of a number, spelled in some way. -/
def chars (v : Spelling) (n : Nat) : List Char :=
  (if v.plus then ['+'] else []) ++ (List.replicate v.zeros '0' ++ Nat.toDigits 10 n)

@[simp] theorem chars_plain (n : Nat) : plain.chars n = Nat.toDigits 10 n := rfl

theorem mem_chars {v : Spelling} {n : Nat} {c : Char} (h : c ∈ v.chars n) :
    c = '+' ∨ c.isDigit := by
  rcases List.mem_append.1 h with h | h
  · split at h
    · exact .inl (List.mem_singleton.1 h)
    · cases h
  · rcases List.mem_append.1 h with h | h
    · rw [List.eq_of_mem_replicate h]
      exact .inr rfl
    · exact .inr (isDigit_of_mem_toDigits h)

theorem head?_chars (v : Spelling) (n : Nat) : (v.chars n).head? = some '+' ↔ v.plus = true := by
  obtain ⟨plus, zeros⟩ := v
  cases plus with
  | true => exact iff_of_true rfl rfl
  | false =>
      refine iff_of_false ?_ Bool.false_ne_true
      intro hhead
      have hmem : '+' ∈ List.replicate zeros '0' ++ Nat.toDigits 10 n := List.mem_of_head? hhead
      rcases List.mem_append.1 hmem with hmem | hmem
      · cases List.eq_of_mem_replicate hmem
      · exact ne_plus_of_isDigit (isDigit_of_mem_toDigits hmem) rfl

theorem chars_inj {v w : Spelling} {n : Nat} : v.chars n = w.chars n ↔ v = w := by
  refine ⟨fun h => ?_, fun h => by rw [h]⟩
  have hplus : v.plus = w.plus := by
    rw [Bool.eq_iff_iff, ← head?_chars v n, ← head?_chars w n, h]
  have hlength := congrArg List.length h
  simp only [chars, hplus, List.length_append, List.length_replicate] at hlength
  have hzeros : v.zeros = w.zeros := by omega
  obtain ⟨plus, zeros⟩ := v
  obtain ⟨plus', zeros'⟩ := w
  obtain rfl : plus = plus' := hplus
  obtain rfl : zeros = zeros' := hzeros
  rfl

end Spelling

/-- **A numeral is read as the number that it is a spelling of**, if that is within the bound. -/
theorem natural?_eq_some_iff {bound n : Nat} {cs : List Char} :
    natural? bound cs = some n ↔ n ≤ bound ∧ ∃ v : Spelling, cs = v.chars n := by
  have hbound : ∀ ds : List Char,
      ((digitsValue? ds).bind fun m => if m ≤ bound then some m else none) = some n ↔
        n ≤ bound ∧ ∃ zeros, ds = List.replicate zeros '0' ++ Nat.toDigits 10 n := by
    intro ds
    simp only [Option.bind_eq_some_iff, Option.ite_none_right_eq_some, Option.some.injEq,
      ← digitsValue?_eq_some_iff_zeros]
    constructor
    · rintro ⟨m, hm, hle, rfl⟩
      exact ⟨hle, hm⟩
    · rintro ⟨hle, hm⟩
      exact ⟨n, hm, hle, rfl⟩
  unfold natural?
  split
  · rename_i ds
    have hspelled : (∃ zeros, ds = List.replicate zeros '0' ++ Nat.toDigits 10 n) ↔
        ∃ v : Spelling, '+' :: ds = v.chars n := by
      constructor
      · rintro ⟨zeros, rfl⟩
        exact ⟨⟨true, zeros⟩, rfl⟩
      · rintro ⟨⟨plus, zeros⟩, h⟩
        obtain rfl : plus = true := (Spelling.head?_chars ⟨plus, zeros⟩ n).1 (h ▸ rfl)
        exact ⟨zeros, (List.cons.inj h).2⟩
    have hread := (hbound ds).trans (and_congr_right fun _ => hspelled)
    dsimp only
    generalize digitsValue? ds = value at hread ⊢
    cases value <;> exact hread
  · rename_i hplus
    have hspelled : (∃ zeros, cs = List.replicate zeros '0' ++ Nat.toDigits 10 n) ↔
        ∃ v : Spelling, cs = v.chars n := by
      constructor
      · rintro ⟨zeros, rfl⟩
        exact ⟨⟨false, zeros⟩, rfl⟩
      · rintro ⟨⟨plus, zeros⟩, rfl⟩
        cases plus with
        | true => exact absurd rfl (hplus _)
        | false => exact ⟨zeros, rfl⟩
    have hread := (hbound cs).trans (and_congr_right fun _ => hspelled)
    dsimp only
    generalize digitsValue? cs = value at hread ⊢
    cases value <;> exact hread

end Text

/-! ### Spellings of a place -/

namespace Cursor

open Text (Spelling)

/-- The text of a place whose numeral is spelled in some way. -/
def spelled (v : Spelling) (n : Nat) : String :=
  String.ofList (Base64.encode ((v.chars n).map Char.toNat))

theorem spelled_plain (n : Nat) : spelled .plain n = (mk n).encode := rfl

theorem toNat_lt_of_mem_chars {v : Spelling} {n b : Nat} (h : b ∈ (v.chars n).map Char.toNat) :
    b < 256 := by
  obtain ⟨c, hc, rfl⟩ := List.mem_map.1 h
  rcases Spelling.mem_chars hc with rfl | hdigit
  · decide
  · exact toNat_lt_of_isDigit hdigit

theorem map_toNat_ofNat {bs : List Nat} (h : ∀ b ∈ bs, b < 256) :
    (bs.map Char.ofNat).map Char.toNat = bs := by
  rw [List.map_map]
  refine (List.map_congr_left fun b hb => ?_).trans (List.map_id bs)
  have hvalid : b.isValidChar := .inl (Nat.lt_trans (h b hb) (by decide))
  rw [Function.comp_apply, Char.ofNat, dif_pos hvalid]
  rfl

/-- **A text is read as the place that it is a spelling of**, if that is one. -/
theorem parse?_eq_some_iff {s : String} {c : Cursor} :
    parse? s = some c ↔ c.sequence ≤ limit ∧ ∃ v, s = spelled v c.sequence := by
  constructor
  · intro h
    rw [parse?, parseChars?] at h
    cases hbytes : Base64.decode s.toList with
    | none =>
        rw [hbytes] at h
        cases h
    | some bytes =>
        rw [hbytes] at h
        obtain ⟨n, hn, rfl⟩ := Option.map_eq_some_iff.1 h
        obtain ⟨hs, hlt⟩ := Base64.decode_eq_some_iff.1 hbytes
        obtain ⟨hle, v, hv⟩ := Text.natural?_eq_some_iff.1 hn
        refine ⟨hle, v, ?_⟩
        rw [spelled, ← hv, map_toNat_ofNat hlt, ← hs, String.ofList_toList]
  · rintro ⟨hle, v, rfl⟩
    have hback : ((v.chars c.sequence).map Char.toNat).map Char.ofNat = v.chars c.sequence := by
      rw [List.map_map]
      exact List.map_id'' (fun d => Char.ofNat_toNat d) _
    rw [parse?, spelled, String.toList_ofList, parseChars?,
      Base64.decode_encode fun b hb => toNat_lt_of_mem_chars hb]
    simp only [hback, Text.natural?_eq_some_iff.2 ⟨hle, v, rfl⟩, Option.map_some]

theorem spelled_inj {v w : Spelling} {n : Nat} : spelled v n = spelled w n ↔ v = w := by
  refine ⟨fun h => ?_, fun h => by rw [h]⟩
  have hdigits : Base64.encode ((v.chars n).map Char.toNat) =
      Base64.encode ((w.chars n).map Char.toNat) := String.ofList_injective h
  have hbytes := Base64.decode_encode fun b hb => toNat_lt_of_mem_chars (v := v) (n := n) hb
  rw [hdigits, Base64.decode_encode fun b hb => toNat_lt_of_mem_chars hb] at hbytes
  have hchars : v.chars n = w.chars n :=
    (List.map_inj_right fun _ _ => Char.toNat_inj.1).1 (Option.some_inj.1 hbytes).symm
  exact Spelling.chars_inj.1 hchars

/-- **Which texts are cursors, and which of them are handed out.**  A text is read as a place exactly if
it is Base64 of the place's numeral, with a plus sign and zeros in front or not; it is the one handed out
for the place exactly if there is nothing in front; and any other text but the empty one is refused, as an
invalid cursor. -/
theorem issued_iff (s : String) :
    (∀ c, parse? s = some c ↔ c.sequence ≤ limit ∧ ∃ v, s = spelled v c.sequence) ∧
    (∀ c v, parse? s = some c → s = spelled v c.sequence → (c.encode = s ↔ v = .plain)) ∧
    ∀ e, Page.start? (some s) = .error e ↔ s ≠ "" ∧
      (∀ (c : Cursor) v, c.sequence ≤ limit → s ≠ spelled v c.sequence) ∧ e = .invalidCursor s := by
  refine ⟨fun c => parse?_eq_some_iff, ?_, fun e => ?_⟩
  · rintro c v - rfl
    rw [← spelled_plain, spelled_inj, eq_comm]
  · have hnone : parse? s = none ↔ ∀ (c : Cursor) v, c.sequence ≤ limit → s ≠ spelled v c.sequence := by
      rw [Option.eq_none_iff_forall_ne_some]
      refine forall_congr' fun c => ?_
      rw [ne_eq, parse?_eq_some_iff, not_and, not_exists]
      exact forall_comm
    rw [Page.start?_eq_error_iff, ← hnone]
    simp only [Option.some.injEq, exists_eq_left']

/-- A numeral with two zeros in front is read as 7, which another text is handed out for. -/
theorem issued_iff_zeros : parse? "MDA3" = some (mk 7) ∧ "MDA3" = spelled ⟨false, 2⟩ 7 ∧
    (mk 7).encode ≠ "MDA3" := by
  have hread : parse? "MDA3" = some (mk 7) := by decide +kernel
  have hspelled : "MDA3" = spelled ⟨false, 2⟩ 7 := by decide +kernel
  obtain ⟨-, hissued, -⟩ := issued_iff "MDA3"
  refine ⟨hread, hspelled, ?_⟩
  intro hsame
  exact absurd ((hissued (mk 7) ⟨false, 2⟩ hread hspelled).1 hsame) (by decide)

/-- A text may be read as a place that another one is handed out for. -/
theorem exists_unissued : ∃ s c, parse? s = some c ∧ c.encode ≠ s :=
  ⟨"KzE", mk 1, by decide +kernel, by decide +kernel⟩

end Cursor

end ManifestRegistry
