/-
**The numbers of printed JSON.**

What the printer writes for a number is read as one number: integers as they are, and a double as
some number, whatever its value.

Main definitions:

* `Json.Advances` — from one place of a number to another by reading some characters.

Main results:

* `Binary64.shortest_coefficient` — the shortest decimal of a double that is not zero is not zero;
* `Json.scan_integer`, `Json.scan_float` — **integers and doubles are read to their end**.
-/

import ManifestRegistry.Json.Printer
import ManifestRegistry.Json.Token
import ManifestRegistry.Proofs.Text.Decimal

set_option relaxedAutoImplicit false
set_option autoImplicit false

namespace ManifestRegistry

/-! ### Shortest decimals -/

theorem Decimal.trim_coefficient (fuel : Nat) {d : Decimal} (h : d.coefficient ≠ 0) :
    (d.trim fuel).coefficient ≠ 0 := by
  induction fuel generalizing d with
  | zero => exact h
  | succ fuel ih =>
      unfold Decimal.trim
      split
      · rename_i hd
        refine ih ?_
        have := hd.2
        show d.coefficient / 10 ≠ 0
        omega
      · exact h

namespace Binary64

theorem low_interval_pos {x : Binary64} (h : x.parts.1 ≠ 0) : 0 < x.interval.low := by
  have hgap : ∀ m : Nat, m ≠ 0 → ∀ p : Prop, [Decidable p] → 0 < 4 * m - (if p then 1 else 2) := by
    intro m hm p _
    split <;> omega
  unfold interval
  refine Nat.mul_pos (hgap _ h _) ?_
  split
  · rw [Nat.shiftLeft_eq, Nat.one_mul]
    exact Nat.pow_pos (by omega)
  · exact Nat.one_pos

theorem Interval.contains_zero {i : Interval} (h : 0 < i.low) {d : Nat} (hd : 0 < d) :
    i.contains 0 d = false := by
  have hpos : 0 < i.low * d := Nat.mul_pos h hd
  unfold Interval.contains
  simp only [Nat.zero_mul]
  split
  · simp
    omega
  · simp

theorem Interval.gridPoint_coefficient {i : Interval} (h : 0 < i.low) {digits : Nat} {d : Decimal}
    (hd : i.gridPoint digits = some d) : d.coefficient ≠ 0 := by
  have hdown : 0 < (if 0 ≤ i.leadingPower + 1 - (digits : Int) then
      (Nat.pow 10 (i.leadingPower + 1 - (digits : Int)).toNat, 1)
      else (1, Nat.pow 10 (-(i.leadingPower + 1 - (digits : Int))).toNat)).2 := by
    split
    · exact Nat.one_pos
    · exact Nat.pow_pos (by omega)
  unfold Interval.gridPoint at hd
  simp only at hd
  generalize (if 0 ≤ i.leadingPower + 1 - (digits : Int) then
      (Nat.pow 10 (i.leadingPower + 1 - (digits : Int)).toNat, 1)
      else (1, Nat.pow 10 (-(i.leadingPower + 1 - (digits : Int))).toNat)) = grid at hd hdown
  obtain ⟨up, down⟩ := grid
  split at hd
  · rename_i hhit
    obtain rfl := Option.some_inj.1 hd
    intro hzero
    rw [show i.mid * down / (i.den * up) = 0 from hzero, Nat.zero_mul,
      contains_zero h hdown] at hhit
    simp at hhit
  · split at hd
    · obtain rfl := Option.some_inj.1 hd
      exact Nat.succ_ne_zero _
    · cases hd

/-- The shortest decimal of a double that is not zero is not zero, or it has no exponent. -/
theorem shortest_coefficient {x : Binary64} (h : x.parts.1 ≠ 0) :
    x.shortest.coefficient ≠ 0 ∨ x.shortest.exponent = 0 := by
  unfold shortest
  simp only
  split
  · rename_i d hd
    obtain ⟨n, -, hn⟩ := List.exists_of_findSome?_eq_some hd
    exact .inl (Decimal.trim_coefficient 17 (Interval.gridPoint_coefficient (low_interval_pos h) hn))
  · exact .inr rfl

end Binary64

namespace Json

/-! ### Places in a number -/

/-- A scan that stands at some place of a number comes to another one by reading some characters. -/
def Advances (phase : NumberPhase) (l : Lexeme) (cs : List Char) (phase' : NumberPhase)
    (l' : Lexeme) : Prop :=
  ∀ rev, cs.foldl Scan.step ⟨rev, .number phase l⟩ = ⟨rev, .number phase' l'⟩

theorem Advances.append {phase phase' phase'' : NumberPhase} {l l' l'' : Lexeme}
    {cs cs' : List Char} (h : Advances phase l cs phase' l')
    (h' : Advances phase' l' cs' phase'' l'') : Advances phase l (cs ++ cs') phase'' l'' := by
  intro rev
  rw [List.foldl_append, h, h']

theorem ne_marks_of_isDigit {c : Char} (h : c.isDigit) : c ≠ '.' ∧ c ≠ 'e' ∧ c ≠ '+' ∧ c ≠ '-' := by
  refine ⟨?_, ?_, ?_, ?_⟩ <;> rintro rfl <;> cases h

/-- Where a number stands after its first digit: nothing but a point or a mark follows a zero. -/
def leadPhase (c : Char) : NumberPhase := if c = '0' then .zero else .whole

theorem mem_digits_of_isDigit {c : Char} (h : c.isDigit) :
    c ∈ ['0', '1', '2', '3', '4', '5', '6', '7', '8', '9'] := by
  obtain ⟨hlow, hhigh⟩ := Char.isDigit_iff_toNat.1 h
  have hlow' : 48 ≤ c.toNat := hlow
  have hhigh' : c.toNat ≤ 57 := hhigh
  rw [← Char.ofNat_toNat c]
  have hall : ∀ n, n ≤ 57 → 48 ≤ n →
      Char.ofNat n ∈ ['0', '1', '2', '3', '4', '5', '6', '7', '8', '9'] := by decide
  exact hall _ hhigh' hlow'

theorem step_lead (rev : List Token) {c : Char} (h : c.isDigit) :
    Scan.step ⟨rev, .between⟩ c = ⟨rev, .number (leadPhase c) ⟨false, [c], [], none⟩⟩ := by
  have hmem := mem_digits_of_isDigit h
  simp only [List.mem_cons, List.not_mem_nil, or_false] at hmem
  rcases hmem with rfl | rfl | rfl | rfl | rfl | rfl | rfl | rfl | rfl | rfl <;> rfl

theorem step_lead_minus (rev : List Token) {c : Char} (h : c.isDigit) :
    Scan.step ⟨rev, .number .minus ⟨true, [], [], none⟩⟩ c =
      ⟨rev, .number (leadPhase c) ⟨true, [c], [], none⟩⟩ := by
  by_cases h0 : c = '0'
  · subst h0
    rfl
  · simp [Scan.step, Scan.stepNumber, leadPhase, h0, h]

theorem advances_whole (l : Lexeme) {ds : List Char} (h : ∀ c ∈ ds, c.isDigit) :
    Advances .whole l ds .whole { l with whole := ds.reverse ++ l.whole } := by
  -- every further digit is put in front of the reversed ones
  induction ds generalizing l with
  | nil => exact fun rev => rfl
  | cons d ds ih =>
      intro rev
      have hstep : Scan.step ⟨rev, .number .whole l⟩ d =
          ⟨rev, .number .whole { l with whole := d :: l.whole }⟩ := by
        simp [Scan.step, Scan.stepNumber, h d List.mem_cons_self]
      rw [List.foldl_cons, hstep, ih _ (fun c hc => h c (List.mem_cons_of_mem _ hc)) rev]
      simp

theorem advances_fraction (l : Lexeme) {ds : List Char} (h : ∀ c ∈ ds, c.isDigit) :
    Advances .fraction l ds .fraction { l with fraction := ds.reverse ++ l.fraction } := by
  induction ds generalizing l with
  | nil => exact fun rev => rfl
  | cons d ds ih =>
      intro rev
      have hstep : Scan.step ⟨rev, .number .fraction l⟩ d =
          ⟨rev, .number .fraction { l with fraction := d :: l.fraction }⟩ := by
        simp [Scan.step, Scan.stepNumber, h d List.mem_cons_self]
      rw [List.foldl_cons, hstep, ih _ (fun c hc => h c (List.mem_cons_of_mem _ hc)) rev]
      simp

theorem advances_power (l : Lexeme) {ds : List Char} (h : ∀ c ∈ ds, c.isDigit) :
    ∃ l', Advances .power l ds .power l' := by
  induction ds generalizing l with
  | nil => exact ⟨l, fun rev => rfl⟩
  | cons d ds ih =>
      obtain ⟨l', hl'⟩ := ih { l with exponent := l.exponent.map fun e => (e.1, d :: e.2) }
        fun c hc => h c (List.mem_cons_of_mem _ hc)
      refine ⟨l', fun rev => ?_⟩
      have hstep : Scan.step ⟨rev, .number .power l⟩ d = ⟨rev, .number .power
          { l with exponent := l.exponent.map fun e => (e.1, d :: e.2) }⟩ := by
        simp [Scan.step, Scan.stepNumber, h d List.mem_cons_self]
      rw [List.foldl_cons, hstep, hl']

theorem advances_point {phase : NumberPhase} (hp : phase = .zero ∨ phase = .whole) (l : Lexeme)
    {d : Char} {ds : List Char} (hd : d.isDigit) (h : ∀ c ∈ ds, c.isDigit) :
    ∃ l', Advances phase l ('.' :: d :: ds) .fraction l' := by
  refine ⟨{ l with fraction := ds.reverse ++ [d] }, fun rev => ?_⟩
  have hpoint : Scan.step ⟨rev, .number phase l⟩ '.' = ⟨rev, .number .point l⟩ := by
    rcases hp with rfl | rfl <;> rfl
  have hdigit : Scan.step ⟨rev, .number .point l⟩ d =
      ⟨rev, .number .fraction { l with fraction := [d] }⟩ := by
    simp [Scan.step, Scan.stepNumber, hd]
  rw [List.foldl_cons, hpoint, List.foldl_cons, hdigit, advances_fraction _ h rev]

theorem advances_mark {phase : NumberPhase} (hp : phase = .zero ∨ phase = .whole ∨
    phase = .fraction) (l : Lexeme) (k : Int) :
    ∃ l', Advances phase l ('e' :: intChars k) .power l' := by
  have hmark : ∀ rev, Scan.step ⟨rev, .number phase l⟩ 'e' =
      ⟨rev, .number .mark { l with exponent := some (false, []) }⟩ := by
    intro rev
    rcases hp with rfl | rfl | rfl <;> rfl
  obtain ⟨d, ds, hds⟩ := List.exists_cons_of_ne_nil (Nat.toDigits_ne_nil (b := 10) (n := k.natAbs))
  have hdigits : ∀ c ∈ d :: ds, c.isDigit := fun c hc =>
    Text.isDigit_of_mem_toDigits (hds ▸ hc)
  have hd := hdigits d List.mem_cons_self
  obtain ⟨-, -, hplus, hminus⟩ := ne_marks_of_isDigit hd
  unfold intChars
  split
  · -- a minus sign, then digits
    obtain ⟨l', hl'⟩ := advances_power { l with exponent := some (true, [d]) }
      fun c hc => hdigits c (List.mem_cons_of_mem _ hc)
    refine ⟨l', fun rev => ?_⟩
    rw [hds, List.foldl_cons, hmark, List.foldl_cons, List.foldl_cons]
    have hstep : Scan.step (Scan.step ⟨rev, .number .mark { l with exponent := some (false, []) }⟩
        '-') d = ⟨rev, .number .power { l with exponent := some (true, [d]) }⟩ := by
      simp [Scan.step, Scan.stepNumber, hd]
    rw [hstep, hl']
  · obtain ⟨l', hl'⟩ := advances_power { l with exponent := some (false, [d]) }
      fun c hc => hdigits c (List.mem_cons_of_mem _ hc)
    refine ⟨l', fun rev => ?_⟩
    rw [hds, List.foldl_cons, hmark, List.foldl_cons]
    have hstep : Scan.step ⟨rev, .number .mark { l with exponent := some (false, []) }⟩ d =
        ⟨rev, .number .power { l with exponent := some (false, [d]) }⟩ := by
      simp [Scan.step, Scan.stepNumber, hd, hplus, hminus]
    rw [hstep, hl']

/-! ### Decimals -/

theorem advances_lead (l : Lexeme) {c : Char} {ds : List Char} (h0 : c ≠ '0' ∨ ds = [])
    (h : ∀ d ∈ ds, d.isDigit) :
    Advances (leadPhase c) l ds (leadPhase c) { l with whole := ds.reverse ++ l.whole } := by
  rcases h0 with h0 | rfl
  · rw [leadPhase, if_neg h0]
    exact advances_whole l h
  · exact fun rev => rfl

theorem leadPhase_eq (c : Char) : leadPhase c = .zero ∨ leadPhase c = .whole := by
  unfold leadPhase
  split
  · exact .inl rfl
  · exact .inr rfl

theorem advances_positional (l : Lexeme) {c : Char} {ds : List Char} (h0 : c ≠ '0' ∨ ds = [])
    (h : ∀ d ∈ ds, d.isDigit) {e : Char} {es : List Char} (he : e.isDigit)
    (hes : ∀ d ∈ es, d.isDigit) : ∃ l', Advances (leadPhase c) l (ds ++ '.' :: e :: es) .fraction l' := by
  obtain ⟨l', hl'⟩ := advances_point (leadPhase_eq c) _ he hes
  exact ⟨l', (advances_lead l h0 h).append hl'⟩

/-- The rest of a number behind its first digit is read to a place where it may end. -/
def Completes (c : Char) (cs : List Char) : Prop :=
  c.isDigit ∧ ∀ l, ∃ phase l', phase.final = true ∧ Advances (leadPhase c) l cs phase l'

theorem completes_positional {c : Char} (hc : c.isDigit) {ds : List Char} (h0 : c ≠ '0' ∨ ds = [])
    (h : ∀ d ∈ ds, d.isDigit) {es : List Char} (hne : es ≠ []) (hes : ∀ d ∈ es, d.isDigit) :
    Completes c (ds ++ '.' :: es) := by
  obtain ⟨e, es, rfl⟩ := List.exists_cons_of_ne_nil hne
  refine ⟨hc, fun l => ?_⟩
  obtain ⟨l', hl'⟩ := advances_positional l h0 h (hes e List.mem_cons_self)
    fun d hd => hes d (List.mem_cons_of_mem _ hd)
  exact ⟨.fraction, l', rfl, hl'⟩

theorem completes_scientific {c : Char} (hc : c.isDigit) {ds : List Char}
    (h : ∀ d ∈ ds, d.isDigit) (k : Int) :
    Completes c ((match ds with | [] => [] | d :: ds => '.' :: d :: ds) ++ 'e' :: intChars k) := by
  refine ⟨hc, fun l => ?_⟩
  cases ds with
  | nil =>
      obtain ⟨l', hl'⟩ := advances_mark ((leadPhase_eq c).imp_right .inl) l k
      exact ⟨.power, l', rfl, hl'⟩
  | cons d ds =>
      obtain ⟨l₁, h₁⟩ := advances_point (leadPhase_eq c) l (h d List.mem_cons_self)
        fun e he => h e (List.mem_cons_of_mem _ he)
      obtain ⟨l', hl'⟩ := advances_mark (.inr (.inr rfl)) l₁ k
      exact ⟨.power, l', rfl, h₁.append hl'⟩

/-- The digits of a decimal do not begin with a zero, unless it is the only one. -/
theorem digits_eq_cons {d : Decimal} (h : d.coefficient ≠ 0 ∨ d.exponent = 0) :
    ∃ c ds, Nat.toDigits 10 d.coefficient = c :: ds ∧ (c ≠ '0' ∨ ds = [] ∧ d.exponent = 0) := by
  rcases Text.toDigits_eq_cons d.coefficient with hz | ⟨c, ds, hds, -, h0, -⟩
  · refine ⟨'0', [], hz, .inr ⟨rfl, h.resolve_left fun hne => hne ?_⟩⟩
    have hv := Text.digitsValue_toDigits d.coefficient
    rw [hz] at hv
    exact hv.symm
  · exact ⟨c, ds, hds, .inl h0⟩

theorem isDigit_of_mem_zeros {n : Nat} {e : Char} (he : e ∈ List.replicate n '0') : e.isDigit := by
  rw [List.eq_of_mem_replicate he]
  rfl

/-- **A decimal is written as a number**, if it is not zero or has no exponent. -/
theorem completes_decimal {d : Decimal} (h : d.coefficient ≠ 0 ∨ d.exponent = 0) :
    ∃ c cs, decimalChars d = c :: cs ∧ Completes c cs := by
  have hall : ∀ c ∈ Nat.toDigits 10 d.coefficient, c.isDigit :=
    fun c hc => Text.isDigit_of_mem_toDigits hc
  obtain ⟨c, ds, hds, h0⟩ := digits_eq_cons h
  rw [hds] at hall
  have hc := hall c List.mem_cons_self
  have hds' : ∀ e ∈ ds, e.isDigit := fun e he => hall e (List.mem_cons_of_mem _ he)
  unfold decimalChars
  simp only [hds, List.length_cons]
  split
  · -- all digits stand before the point
    refine ⟨c, (ds ++ List.replicate d.exponent.toNat '0') ++ '.' :: ['0'], by simp,
      completes_positional hc ?_ ?_ (by simp) (by simp)⟩
    · rcases h0 with h0 | ⟨rfl, he⟩
      · exact .inl h0
      · exact .inr (by simp [he])
    · intro e he
      rcases List.mem_append.1 he with he | he
      · exact hds' e he
      · exact isDigit_of_mem_zeros he
  split
  · -- the point falls among the digits
    rename_i hlarge hpoint
    have hneg : d.exponent < 0 := by omega
    obtain ⟨k, hk⟩ : ∃ k : Nat, ((ds.length + 1 : Nat) : Int) + d.exponent = (k + 1 : Nat) :=
      ⟨(((ds.length + 1 : Nat) : Int) + d.exponent - 1).toNat, by omega⟩
    rw [hk, Int.toNat_natCast, List.take_succ_cons, List.drop_succ_cons]
    refine ⟨c, ds.take k ++ '.' :: ds.drop k, rfl, completes_positional hc ?_
      (fun e he => hds' e (List.mem_of_mem_take he)) ?_ fun e he => hds' e (List.mem_of_mem_drop he)⟩
    · exact .inl (h0.resolve_right fun hz => by omega)
    · intro hnil
      have := List.drop_eq_nil_iff.1 hnil
      omega
  split
  · -- the point falls before the digits
    refine ⟨'0', [] ++ '.' :: (List.replicate (-(((ds.length + 1 : Nat) : Int) +
      d.exponent)).toNat '0' ++ c :: ds), rfl, completes_positional rfl (.inr rfl) (by simp)
      (by simp) ?_⟩
    intro e he
    rcases List.mem_append.1 he with he | he
    · exact isDigit_of_mem_zeros he
    · exact hall e he
  -- anything else is written with an exponent
  · have hsci := completes_scientific hc hds' (((ds.length + 1 : Nat) : Int) + d.exponent - 1)
    cases ds with
    | nil => exact ⟨c, _, rfl, hsci⟩
    | cons e es => exact ⟨c, _, rfl, hsci⟩

/-! ### Numbers -/

theorem Completes.scan {c : Char} {cs : List Char} (h : Completes c cs) (negative : Bool) :
    ∃ phase l, phase.final = true ∧
      ∀ rev, ((if negative then ['-'] else []) ++ c :: cs).foldl Scan.step ⟨rev, .between⟩ =
        ⟨rev, .number phase l⟩ := by
  obtain ⟨hc, hl⟩ := h
  cases negative with
  | true =>
      obtain ⟨phase, l', hfinal, hadv⟩ := hl ⟨true, [c], [], none⟩
      refine ⟨phase, l', hfinal, fun rev => ?_⟩
      have hminus : Scan.step ⟨rev, .between⟩ '-' = ⟨rev, .number .minus ⟨true, [], [], none⟩⟩ := rfl
      simp only [if_true, List.cons_append, List.nil_append, List.foldl_cons, hminus]
      rw [step_lead_minus rev hc, hadv]
  | false =>
      obtain ⟨phase, l', hfinal, hadv⟩ := hl ⟨false, [c], [], none⟩
      refine ⟨phase, l', hfinal, fun rev => ?_⟩
      simp only [Bool.false_eq_true, if_false, List.nil_append, List.foldl_cons]
      rw [step_lead rev hc, hadv]

/-- **A double is read to its end.** -/
theorem scan_float {x : Binary64} (h : x.isUnbounded = false) :
    ∃ phase l, phase.final = true ∧
      ∀ rev, (floatChars x).foldl Scan.step ⟨rev, .between⟩ = ⟨rev, .number phase l⟩ := by
  obtain ⟨c, cs, hbody, hcs⟩ : ∃ c cs, (if x.parts.1 = 0 then ['0', '.', '0'] else
      decimalChars x.shortest) = c :: cs ∧ Completes c cs := by
    split
    · exact ⟨'0', [] ++ '.' :: ['0'], rfl,
        completes_positional rfl (.inr rfl) (by simp) (by simp) (by simp)⟩
    · rename_i hz
      exact completes_decimal (Binary64.shortest_coefficient hz)
  obtain ⟨phase, l, hfinal, hscan⟩ := hcs.scan x.negative
  refine ⟨phase, l, hfinal, fun rev => ?_⟩
  rw [← hscan rev]
  simp only [floatChars, h, Bool.false_eq_true, if_false, hbody]
  cases x.negative <;> rfl

theorem le_ofDigitChars (es : List Char) (n : Nat) : n ≤ Nat.ofDigitChars 10 es n := by
  induction es generalizing n with
  | nil => exact Nat.le_refl n
  | cons e es ih =>
      rw [Nat.ofDigitChars_cons]
      exact Nat.le_trans (by omega) (ih _)

theorem takeSignificand_eq (ds : List Char) (m : Nat)
    (h : Nat.ofDigitChars 10 ds m ≤ significandLimit) :
    takeSignificand m ds = (Nat.ofDigitChars 10 ds m, []) := by
  induction ds generalizing m with
  | nil => rfl
  | cons d ds ih =>
      have hstep : Nat.ofDigitChars 10 (d :: ds) m =
          Nat.ofDigitChars 10 ds (10 * m + Text.digitValue d) := by
        rw [Nat.ofDigitChars_cons]
        rfl
      rw [hstep] at h ⊢
      rw [takeSignificand, if_pos (Nat.le_trans (le_ofDigitChars ds _) h), ih _ h]

theorem number?_integer (i : Integer) :
    Lexeme.number? ⟨decide (i.value < 0), Nat.toDigits 10 i.value.natAbs, [], none⟩ =
      some (.integer i) := by
  obtain ⟨v, hlow, hhigh⟩ := i
  have htake : takeSignificand 0 (Nat.toDigits 10 v.natAbs) = (v.natAbs, []) := by
    rw [takeSignificand_eq, Nat.ofDigitChars_ten_toDigits]
    rw [Nat.ofDigitChars_ten_toDigits]
    simp only [significandLimit]
    omega
  unfold Lexeme.number?
  simp only [htake]
  by_cases hneg : v < 0
  · have hne : v.natAbs ≠ 0 := by omega
    have hback : -(v.natAbs : Int) = v := by omega
    have hof : Integer.ofInt? v = some ⟨v, hlow, hhigh⟩ := dif_pos ⟨hlow, hhigh⟩
    simp only [hneg, decide_true, if_true, hne, if_false, hback, hof]
  · have hback : (v.natAbs : Int) = v := by omega
    have hof : Integer.ofInt? v = some ⟨v, hlow, hhigh⟩ := dif_pos ⟨hlow, hhigh⟩
    simp only [hneg, decide_false, Bool.false_eq_true, if_false, hback, hof, Option.map_some]

/-- **An integer is read to its end**, as the integer. -/
theorem scan_integer (i : Integer) :
    ∃ phase l, phase.final = true ∧ l.finish.number? = some (.integer i) ∧
      ∀ rev, (intChars i.value).foldl Scan.step ⟨rev, .between⟩ = ⟨rev, .number phase l⟩ := by
  obtain ⟨c, ds, hds, h0⟩ : ∃ c ds, Nat.toDigits 10 i.value.natAbs = c :: ds ∧
      (c ≠ '0' ∨ ds = []) := by
    rcases Text.toDigits_eq_cons i.value.natAbs with hz | ⟨c, ds, hds, -, h0, -⟩
    · exact ⟨'0', [], hz, .inr rfl⟩
    · exact ⟨c, ds, hds, .inl h0⟩
  have hall : ∀ e ∈ c :: ds, e.isDigit := fun e he => Text.isDigit_of_mem_toDigits (hds ▸ he)
  have hc := hall c List.mem_cons_self
  have hrest := fun e he => hall e (List.mem_cons_of_mem _ he)
  have hfinal : (leadPhase c).final = true := by
    rcases leadPhase_eq c with h | h <;> rw [h] <;> rfl
  have hnumber := number?_integer i
  rw [hds] at hnumber
  by_cases hneg : i.value < 0
  · refine ⟨leadPhase c, ⟨true, ds.reverse ++ [c], [], none⟩, hfinal, ?_, fun rev => ?_⟩
    · simpa [Lexeme.finish, hneg] using hnumber
    · have hminus : Scan.step ⟨rev, .between⟩ '-' = ⟨rev, .number .minus ⟨true, [], [], none⟩⟩ := rfl
      rw [intChars, if_pos hneg, hds, List.foldl_cons, hminus, List.foldl_cons,
        step_lead_minus rev hc, advances_lead _ h0 hrest]
  · refine ⟨leadPhase c, ⟨false, ds.reverse ++ [c], [], none⟩, hfinal, ?_, fun rev => ?_⟩
    · simpa [Lexeme.finish, hneg] using hnumber
    · rw [intChars, if_neg hneg, hds, List.foldl_cons, step_lead rev hc, advances_lead _ h0 hrest]

end Json

end ManifestRegistry
