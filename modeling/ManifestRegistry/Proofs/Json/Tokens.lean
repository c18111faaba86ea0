/-
**The tokens of printed JSON.**

What the printer writes is read by the automaton token by token.  A number is read to its end only
when something else follows, so a scan that stands inside a number that may end is as good as one that
has emitted it.

Main definitions:

* `Json.Scan.settled` — the tokens of a scan that stands between tokens or may do so;
* `Json.Number.token`, `Json.tokenList` — the tokens of a value.

Main results:

* `Json.foldl_quote` — a string literal is read as the string;
* `Json.tokens_chars` — **the tokens of the text of a value**.
-/

import ManifestRegistry.Proofs.Json.Numbers

set_option relaxedAutoImplicit false
set_option autoImplicit false

namespace ManifestRegistry

namespace Json

/-! ### Strings -/

/-- Sixteen bits that are no surrogate stand for a character. -/
theorem afterUnit_of_lt (l : Literal) (unit : Nat) (h : unit < 0xD800) :
    Scan.afterUnit l none unit = .literal (l.push (Char.ofNat unit)) := by
  have hhigh : ¬(0xD800 ≤ unit ∧ unit < 0xDC00) := by omega
  have hlow : ¬(0xDC00 ≤ unit ∧ unit < 0xE000) := by omega
  simp only [Scan.afterUnit, hhigh, hlow, if_false]

/-- A character as it stands inside a string literal is read as the character. -/
theorem foldl_escape (rev : List Token) (l : Literal) (c : Char) :
    (escape c).foldl Scan.step ⟨rev, .literal l⟩ = ⟨rev, .literal (l.push c)⟩ := by
  unfold escape
  split
  · subst c; rfl
  split
  · subst c; rfl
  split
  · subst c; rfl
  split
  · subst c; rfl
  split
  · subst c; rfl
  split
  · subst c; rfl
  split
  · subst c; rfl
  split
  · rename_i h
    -- a control character is written by its number
    have hhigh : Text.hexValue? (Text.hexDigit (c.toNat / 16)) = some (c.toNat / 16) :=
      Text.hexValue?_hexDigit (by omega)
    have hlow : Text.hexValue? (Text.hexDigit (c.toNat % 16)) = some (c.toNat % 16) :=
      Text.hexValue?_hexDigit (by omega)
    have hzero : Text.hexValue? '0' = some 0 := rfl
    simp only [List.foldl_cons, List.foldl_nil, Scan.step, Scan.stepLiteral, Scan.stepEscape,
      Scan.stepHex, hzero, hhigh, hlow]
    have hafter := afterUnit_of_lt l c.toNat (by omega)
    rw [Char.ofNat_toNat] at hafter
    simp [Nat.div_add_mod, hafter]
  · rename_i hq hb _ _ _ _ _ hc
    simp only [List.foldl_cons, List.foldl_nil, Scan.step, Scan.stepLiteral, hq, hb, hc, if_false]

theorem foldl_flatMap_escape (rev : List Token) (l : Literal) (cs : List Char) :
    (cs.flatMap escape).foldl Scan.step ⟨rev, .literal l⟩ =
      ⟨rev, .literal { l with reversed := cs.reverse ++ l.reversed }⟩ := by
  induction cs generalizing l with
  | nil => rfl
  | cons c cs ih =>
      rw [List.flatMap_cons, List.foldl_append, foldl_escape, ih]
      simp [Literal.push]

/-- **A string literal is read as the string.** -/
theorem foldl_quote (rev : List Token) (s : String) :
    (quote s).foldl Scan.step ⟨rev, .between⟩ = ⟨.text (some s) :: rev, .between⟩ := by
  have hopen : Scan.step ⟨rev, .between⟩ '\x22' = ⟨rev, .literal {}⟩ := rfl
  rw [quote, List.foldl_cons, hopen, List.foldl_append, foldl_flatMap_escape]
  simp [Scan.step, Scan.stepLiteral, Scan.emit, Literal.token]

/-! ### Scans that may emit -/

/-- The tokens of a scan that stands between tokens, or inside a number that may end. -/
def Scan.settled (s : Scan) : Option (List Token) :=
  match s.mode with
  | .between => some s.reversed
  | .number phase l => if phase.final then some (.number l.finish.number? :: s.reversed) else none
  | _ => none

/-- The characters that may follow a value. -/
def isDelimiter (c : Char) : Prop := c = ',' ∨ c = ']' ∨ c = '\x7d'

variable {s : Scan} {rev : List Token}

/-- A delimiter finds a scan that may emit as if it had. -/
theorem Scan.step_of_settled (h : s.settled = some rev) {c : Char} (hc : isDelimiter c) :
    s.step c = Scan.stepBetween ⟨rev, .between⟩ c := by
  obtain ⟨reversed, mode⟩ := s
  cases mode with
  | between =>
      obtain rfl := Option.some_inj.1 h
      rfl
  | number phase l =>
      simp only [settled] at h
      split at h
      · rename_i hfinal
        obtain rfl := Option.some_inj.1 h
        rcases hc with rfl | rfl | rfl <;> cases phase <;> first | rfl | cases hfinal
      · cases h
  | _ => cases h

/-- A scan that may emit has emitted when the text ends. -/
theorem Scan.finish_of_settled (h : s.settled = some rev) : s.finish = rev.reverse := by
  obtain ⟨reversed, mode⟩ := s
  cases mode with
  | between =>
      obtain rfl := Option.some_inj.1 h
      rfl
  | number phase l =>
      simp only [settled] at h
      split at h
      · rename_i hfinal
        obtain rfl := Option.some_inj.1 h
        simp only [finish, hfinal, if_true, emit]
      · cases h
  | _ => cases h

/-! ### The tokens of a value -/

/-- What the text of a double is read as. -/
def reread? (x : Binary64) : Option Number :=
  match tokens (floatChars x) with
  | [.number n] => n
  | _ => none

/-- The token of a number. -/
def Number.token : Number → Token
  | .integer i => .number (some (.integer i))
  | .float x => if x.isUnbounded then .null else .number (reread? x)

mutual

/-- The tokens of a value. -/
def tokenList : Json → List Token
  | .null => [.null]
  | .bool b => [.bool b]
  | .number n => [n.token]
  | .text s => [.text (some s)]
  | .array [] => [.openArray, .closeArray]
  | .array (j :: js) => .openArray :: (tokenList j ++ (itemsTokens js ++ [.closeArray]))
  | .object [] => [.openObject, .closeObject]
  | .object ((k, j) :: es) =>
    .openObject :: .text (some k) :: .colon ::
      (tokenList j ++ (entriesTokens es ++ [.closeObject]))

/-- The tokens of further items of an array. -/
def itemsTokens : List Json → List Token
  | [] => []
  | j :: js => .comma :: (tokenList j ++ itemsTokens js)

/-- The tokens of further entries of an object. -/
def entriesTokens : List (String × Json) → List Token
  | [] => []
  | (k, j) :: es => .comma :: .text (some k) :: .colon :: (tokenList j ++ entriesTokens es)

end

theorem scan_number (n : Number) (rev : List Token) :
    (n.chars.foldl Scan.step ⟨rev, .between⟩).settled = some (n.token :: rev) := by
  cases n with
  | integer i =>
      obtain ⟨phase, l, hfinal, hl, hscan⟩ := scan_integer i
      simp only [Number.chars, hscan, Scan.settled, hfinal, if_true, hl, Number.token]
  | float x =>
      cases hx : x.isUnbounded with
      | true => simp [Number.chars, floatChars, hx, Number.token, Scan.step, Scan.stepBetween,
          Scan.emit, Scan.settled]
      | false =>
          obtain ⟨phase, l, hfinal, hscan⟩ := scan_float hx
          have hread : reread? x = l.finish.number? := by
            have hsettled : ((floatChars x).foldl Scan.step {}).settled =
                some [.number l.finish.number?] := by
              rw [show ({} : Scan) = ⟨[], .between⟩ from rfl, hscan]
              simp only [Scan.settled, hfinal, if_true]
            simp only [reread?, tokens, Scan.finish_of_settled hsettled, List.reverse_singleton]
          simp [Number.chars, hscan, Scan.settled, hfinal, Number.token, hx, hread]

theorem foldl_key (rev : List Token) (k : String) (cs : List Char) :
    (quote k ++ ':' :: cs).foldl Scan.step ⟨rev, .between⟩ =
      cs.foldl Scan.step ⟨.colon :: .text (some k) :: rev, .between⟩ := by
  rw [List.foldl_append, foldl_quote]
  rfl

mutual

theorem scan_chars (rev : List Token) : (j : Json) →
    (j.chars.foldl Scan.step ⟨rev, .between⟩).settled = some (j.tokenList.reverse ++ rev)
  | .null => rfl
  | .bool true => rfl
  | .bool false => rfl
  | .number n => by
    rw [chars, scan_number, tokenList]
    rfl
  | .text s => by
    rw [chars, foldl_quote, tokenList]
    rfl
  | .array [] => rfl
  | .array (j :: js) => by
    have hopen : Scan.step ⟨rev, .between⟩ '[' = ⟨.openArray :: rev, .between⟩ := rfl
    have hitems := scan_items js (scan_chars (.openArray :: rev) j)
    rw [chars, List.foldl_cons, hopen, List.foldl_append, List.foldl_append, List.foldl_cons,
      List.foldl_nil, Scan.step_of_settled hitems (.inr (.inl rfl))]
    simp [Scan.stepBetween, Scan.emit, Scan.settled, tokenList]
  | .object [] => rfl
  | .object ((k, j) :: es) => by
    have hopen : Scan.step ⟨rev, .between⟩ '\x7b' = ⟨.openObject :: rev, .between⟩ := rfl
    have hentries := scan_entries es (scan_chars (.colon :: .text (some k) :: .openObject :: rev) j)
    rw [chars, List.foldl_cons, hopen, foldl_key, List.foldl_append, List.foldl_append,
      List.foldl_cons, List.foldl_nil, Scan.step_of_settled hentries (.inr (.inr rfl))]
    simp [Scan.stepBetween, Scan.emit, Scan.settled, tokenList]

theorem scan_items {s : Scan} {rev : List Token} : (js : List Json) → s.settled = some rev →
    ((itemsChars js).foldl Scan.step s).settled = some ((itemsTokens js).reverse ++ rev)
  | [], h => by simpa [itemsChars, itemsTokens] using h
  | j :: js, h => by
    have hcomma : Scan.stepBetween ⟨rev, .between⟩ ',' = ⟨.comma :: rev, .between⟩ := rfl
    rw [itemsChars, List.foldl_cons, Scan.step_of_settled h (.inl rfl), hcomma, List.foldl_append,
      scan_items js (scan_chars (.comma :: rev) j)]
    simp [itemsTokens]

theorem scan_entries {s : Scan} {rev : List Token} : (es : List (String × Json)) →
    s.settled = some rev →
    ((entriesChars es).foldl Scan.step s).settled = some ((entriesTokens es).reverse ++ rev)
  | [], h => by simpa [entriesChars, entriesTokens] using h
  | (k, j) :: es, h => by
    have hcomma : Scan.stepBetween ⟨rev, .between⟩ ',' = ⟨.comma :: rev, .between⟩ := rfl
    rw [entriesChars, List.foldl_cons, Scan.step_of_settled h (.inl rfl), hcomma, foldl_key,
      List.foldl_append, scan_entries es (scan_chars (.colon :: .text (some k) :: .comma :: rev) j)]
    simp [entriesTokens]

end

/-- **The tokens of the text of a value.** -/
theorem tokens_chars (j : Json) : tokens j.chars = j.tokenList := by
  have h := scan_chars [] j
  rw [List.append_nil] at h
  rw [tokens, show ({} : Scan) = ⟨[], .between⟩ from rfl, Scan.finish_of_settled h,
    List.reverse_reverse]

end Json

end ManifestRegistry
