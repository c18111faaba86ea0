/-
**Cursors read back.**

Main results:

* `Base64.decode_encode` — bytes are read back from their digits;
* `Cursor.parse?_encode` — **the text of a cursor is read as the cursor**;
* `Page.start?_encode` — a listing goes on behind the place that its cursor names;
* `Cursor.encode_faithful` — **places, their texts and what is read from these are told apart and
  ordered alike**.
-/

import ManifestRegistry.Page
import ManifestRegistry.Proofs.Text.Decimal

set_option relaxedAutoImplicit false
set_option autoImplicit false

namespace ManifestRegistry

namespace Base64

@[simp] theorem values?_digit {n : Nat} (h : n < 64) (cs : List Char) :
    values? (digit n :: cs) = (values? cs).map (n :: ·) := by
  rw [values?, value?_digit h]

/-- **Bytes are read back from their digits.** -/
theorem decode_encode {bs : List Nat} (h : ∀ b ∈ bs, b < 256) : decode (encode bs) = some bs := by
  -- three bytes at a time, with one or two left at the end
  fun_induction encode bs with
  | case1 a b c rest ih =>
      have ha := h a (by simp)
      have hb := h b (by simp)
      have hc := h c (by simp)
      have hrest := ih fun d hd => h d (by simp [hd])
      unfold decode at hrest ⊢
      rw [values?_digit (by omega), values?_digit (by omega), values?_digit (by omega),
        values?_digit (by omega)]
      cases hvalues : values? (encode rest) with
      | none => simp [hvalues] at hrest
      | some vs =>
          simp only [hvalues, Option.bind_some] at hrest
          simp only [Option.map_some, Option.bind_some, bytes?, hrest, Option.some.injEq,
            List.cons.injEq, and_true]
          omega
  | case2 a b =>
      have ha := h a (by simp)
      have hb := h b (by simp)
      unfold decode
      rw [values?_digit (by omega), values?_digit (by omega), values?_digit (by omega)]
      simp only [values?, Option.map_some, Option.bind_some, bytes?]
      rw [if_pos (by omega)]
      simp only [Option.some.injEq, List.cons.injEq, and_true]
      omega
  | case3 a =>
      have ha := h a (by simp)
      unfold decode
      rw [values?_digit (by omega), values?_digit (by omega)]
      simp only [values?, Option.map_some, Option.bind_some, bytes?]
      rw [if_pos (by omega)]
      simp only [Option.some.injEq, List.cons.injEq, and_true]
      omega
  | case4 => rfl

/-- Bytes that are there have digits. -/
theorem encode_ne_nil {bs : List Nat} (h : bs ≠ []) : encode bs ≠ [] := by
  fun_cases encode bs with
  | case1 | case2 | case3 => exact List.cons_ne_nil _ _
  | case4 => exact absurd rfl h

end Base64

namespace Cursor

theorem toNat_lt_of_isDigit {c : Char} (h : c.isDigit) : c.toNat < 256 := by
  have hhigh : c.toNat ≤ 57 := (Char.isDigit_iff_toNat.1 h).2
  omega

/-- **The text of a cursor is read as the cursor**, if its number fits into 64 bits, and else not at
all. -/
theorem parse?_encode (c : Cursor) :
    parse? c.encode = if c.sequence ≤ limit then some c else none := by
  have hbytes : ∀ b ∈ (Nat.toDigits 10 c.sequence).map Char.toNat, b < 256 := by
    intro b hb
    obtain ⟨d, hd, rfl⟩ := List.mem_map.1 hb
    exact toNat_lt_of_isDigit (Text.isDigit_of_mem_toDigits hd)
  have hback : ((Nat.toDigits 10 c.sequence).map Char.toNat).map Char.ofNat =
      Nat.toDigits 10 c.sequence := by
    rw [List.map_map]
    exact List.map_id'' (fun d => Char.ofNat_toNat d) _
  rw [parse?, encode, String.toList_ofList, parseChars?, Base64.decode_encode hbytes]
  simp only [hback, Text.natural?_toDigits]
  split <;> rfl

/-- The text of a cursor is not that of the beginning. -/
theorem isEmpty_encode (c : Cursor) : c.encode.isEmpty = false := by
  have hne : (Nat.toDigits 10 c.sequence).map Char.toNat ≠ [] := by
    rw [ne_eq, List.map_eq_nil_iff]
    exact Nat.toDigits_ne_nil
  rw [encode, ← Bool.not_eq_true, String.isEmpty_iff, String.ofList_eq_empty_iff]
  exact Base64.encode_ne_nil hne

end Cursor

/-- **A listing goes on behind the place that its cursor names.** -/
theorem Page.start?_encode {n : Nat} (h : n ≤ Cursor.limit) :
    Page.start? (some (Cursor.mk n).encode) = .ok (some n) := by
  simp only [start?, Cursor.isEmpty_encode, Cursor.parse?_encode, h, Bool.false_eq_true, if_false,
    if_true]

/-- A listing that goes on at all goes on behind the place that its cursor names. -/
theorem Page.eq_of_start?_encode {n : Nat} {start : Option Nat}
    (h : Page.start? (some (Cursor.mk n).encode) = .ok start) : start = some n := by
  simp only [start?, Cursor.isEmpty_encode, Cursor.parse?_encode, Bool.false_eq_true,
    if_false] at h
  by_cases hn : n ≤ Cursor.limit
  · rw [if_pos hn] at h
    exact (Except.ok.inj h).symm
  · rw [if_neg hn] at h
    cases h

theorem Page.start?_eq_error_iff {cursor : Option String} {e : StorageError} :
    start? cursor = .error e ↔ ∃ raw, cursor = some raw ∧ raw ≠ "" ∧ Cursor.parse? raw = none ∧
      e = .invalidCursor raw := by
  cases cursor with
  | none => simp [start?]
  | some raw =>
      simp only [start?, Option.some.injEq, exists_eq_left']
      by_cases hempty : raw = ""
      · simp [hempty]
      · cases Cursor.parse? raw with
        | some c => simp [hempty]
        | none => simpa [hempty] using eq_comm

theorem Page.start?_eq_error {cursor : Option String} {e : StorageError}
    (h : Page.start? cursor = .error e) : ∃ raw, e = .invalidCursor raw := by
  obtain ⟨raw, -, -, -, he⟩ := start?_eq_error_iff.1 h
  exact ⟨raw, he⟩

/-! ### Places and their texts -/

namespace Cursor

theorem encode_inj {m n : Nat} (hm : m ≤ limit) (hn : n ≤ limit) :
    (mk m).encode = (mk n).encode ↔ m = n := by
  refine ⟨fun h => ?_, fun h => by rw [h]⟩
  have hread : some (mk m) = some (mk n) := by
    have := parse?_encode (mk m)
    rw [h, parse?_encode, if_pos hn, if_pos hm] at this
    exact this.symm
  exact congrArg sequence (Option.some.inj hread)

/-- **Cursors are faithful.**  The text of every place is read as that place, and a listing that is
given it goes on behind that place and does not begin anew; different places have different texts;
and what is read from two texts is ordered as the places are. -/
theorem encode_faithful {m n : Nat} (hm : m ≤ limit) (hn : n ≤ limit) :
    parse? (mk n).encode = some (mk n) ∧
      Page.start? (some (mk n).encode) = .ok (some n) ∧
      ((mk m).encode = (mk n).encode ↔ m = n) ∧
      ∀ c d, parse? (mk m).encode = some c → parse? (mk n).encode = some d →
        c.order d = compare m n := by
  have hback {k : Nat} (hk : k ≤ limit) : parse? (mk k).encode = some (mk k) := by
    rw [parse?_encode, if_pos hk]
  refine ⟨hback hn, Page.start?_encode hn, encode_inj hm hn, fun c d hc hd => ?_⟩
  rw [hback hm, Option.some.injEq] at hc
  rw [hback hn, Option.some.injEq] at hd
  subst hc hd
  rfl

/-- The texts need not be ordered as the places are: the largest place of all comes behind 9, but
its text before that of 9. -/
theorem encode_faithful_limit :
    (mk 9).encode = "OQ" ∧ (mk limit).encode = "MTg0NDY3NDQwNzM3MDk1NTE2MTU" ∧
      parse? "MTg0NDY3NDQwNzM3MDk1NTE2MTU" = some (mk limit) ∧
      Page.start? (some "MTg0NDY3NDQwNzM3MDk1NTE2MTU") = .ok (some limit) ∧
      (mk 9).order (mk limit) = .lt := by
  have hnine : (mk 9).encode = "OQ" := by decide +kernel
  have hlimit : (mk limit).encode = "MTg0NDY3NDQwNzM3MDk1NTE2MTU" := by decide +kernel
  obtain ⟨hread, hstart, -, horder⟩ :=
    encode_faithful (m := 9) (n := limit) (by decide) (Nat.le_refl limit)
  rw [hlimit] at hread hstart
  refine ⟨hnine, hlimit, hread, hstart, ?_⟩
  exact (horder (mk 9) (mk limit) (by decide +kernel) (by decide +kernel)).trans (by decide)

end Cursor

end ManifestRegistry
