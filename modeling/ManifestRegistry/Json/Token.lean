/-
**The tokens of a JSON text.**

The text is read by an automaton, one character at a time.  It never fails: where the text stops
being JSON it emits one token that says so and stays put.  A number that is written correctly but
exceeds every double, and a string that holds half of a surrogate pair, are tokens of their own
kind, because a reader that skips a value accepts them and one that wants the value does not.

Main definitions:

* `Json.Token` — a token;
* `Json.Lexeme`, `Json.Lexeme.number?` — a number as written, and its value;
* `Json.Scan`, `Json.Scan.step` — the automaton;
* `Json.tokens` — **the tokens of a text**.
-/

import ManifestRegistry.Json.Basic
import ManifestRegistry.Text.Decimal
import ManifestRegistry.Text.Hex

set_option relaxedAutoImplicit false
set_option autoImplicit false

namespace ManifestRegistry

namespace Json

/-- A token of a JSON text. -/
inductive Token where
  | openArray
  | closeArray
  | openObject
  | closeObject
  | comma
  | colon
  | null
  | bool (b : Bool)
  /-- A number; without a value if it is out of range. -/
  | number (n : Option Number)
  /-- A string; without a value if half of a surrogate pair stands alone in it. -/
  | text (s : Option String)
  /-- The text is not JSON from here on. -/
  | bad
deriving Repr

/-! ### Numbers as written -/

/-- A number as written: sign, digits before and after the point, and exponent. -/
structure Lexeme where
  negative : Bool := false
  whole : List Char := []
  fraction : List Char := []
  /-- Sign and digits of the exponent. -/
  exponent : Option (Bool × List Char) := none
deriving Repr

/-- The largest significand kept while a number is read. -/
def significandLimit : Nat := 0xffffffffffffffff

/-- Reads digits into a significand as long as it stays within the limit; gives the digits left. -/
def takeSignificand : Nat → List Char → Nat × List Char
  | m, [] => (m, [])
  | m, c :: cs =>
    if 10 * m + Text.digitValue c ≤ significandLimit then takeSignificand (10 * m + Text.digitValue c) cs
    else (m, c :: cs)

/-- `x / 10 ^ power`, by `10 ^ 308` at a time while more than that is left and the value is not yet
zero.  Two rounds already turn every value read into zero, so `rounds` never runs out. -/
def dividedDown (x : Binary64) (power : Nat) : (rounds : Nat) → Binary64
  | 0 => x
  | rounds + 1 =>
    if x.parts.1 = 0 then x
    else if power ≤ 308 then x.scaleByPowerOfTen (-(power : Int))
    else dividedDown (x.scaleByPowerOfTen (-308)) (power - 308) rounds

/-- `± significand * 10 ^ power` as a double; nothing if it is too large.  The significand is rounded
first, then the product or quotient. -/
def scaled (negative : Bool) (significand : Nat) (power : Int) : Option Binary64 :=
  let start := Binary64.ofRatio negative significand 1
  if power ≤ 0 then some (dividedDown start power.natAbs 4)
  else if 308 < power then
    if significand = 0 then some start else none
  else
    let x := start.scaleByPowerOfTen power
    if x.isUnbounded then none else some x

/-- The value of a number as written.  Without point and exponent it is an integer if it fits;
everything else is a double, read from the first digits that fit 64 bits: later digits before the
point only move the point, later ones behind it are dropped. -/
def Lexeme.number? (l : Lexeme) : Option Number :=
  let (m, wholeLeft) := takeSignificand 0 l.whole
  match wholeLeft, l.fraction, l.exponent with
  | [], [], none =>
    if l.negative then
      match (if m = 0 then none else Integer.ofInt? (-(m : Int))) with
      | some i => some (.integer i)
      | none => some (.float (Binary64.ofRatio true m 1))
    else (Integer.ofInt? m).map .integer
  | _, fraction, exponent =>
    let (m', fractionLeft) := takeSignificand m fraction
    let point : Int := (wholeLeft.length : Int) - ((fraction.length - fractionLeft.length : Nat) : Int)
    match exponent with
    | none => (scaled l.negative m' point).map .float
    | some (minus, digits) =>
      let e := Text.digitsValue digits
      if 0x80000000 ≤ e then
        if m' ≠ 0 ∧ minus = false then none else some (.float (.zero l.negative))
      else (scaled l.negative m' (if minus then point - e else point + e)).map .float

/-! ### The automaton -/

/-- How much of a number has been read. -/
inductive NumberPhase where
  | minus
  | zero
  | whole
  | point
  | fraction
  | mark
  | signed
  | power
deriving DecidableEq, Repr

/-- Whether a number may end here. -/
def NumberPhase.final : NumberPhase → Bool
  | .zero | .whole | .fraction | .power => true
  | _ => false

/-- A string literal read so far: its characters in reverse, and whether every surrogate has found
its partner. -/
structure Literal where
  reversed : List Char := []
  whole : Bool := true
deriving Repr

namespace Literal

/-- One more character. -/
def push (l : Literal) (c : Char) : Literal := { l with reversed := c :: l.reversed }

/-- The literal with a surrogate that has no partner. -/
def spoil (l : Literal) : Literal := { l with whole := false }

/-- The token of a literal that has ended. -/
def token (l : Literal) : Token :=
  .text (if l.whole then some (String.ofList l.reversed.reverse) else none)

end Literal

/-- Where the automaton stands. -/
inductive Mode where
  | between
  /-- Inside `null`, `true` or `false`, with the letters that must follow. -/
  | word (left : List Char) (token : Token)
  /-- Inside a number, its digits in reverse. -/
  | number (phase : NumberPhase) (l : Lexeme)
  | literal (l : Literal)
  /-- After a backslash; `high` is a high surrogate that waits for its partner. -/
  | escape (l : Literal) (high : Option Nat)
  /-- Inside the four hexadecimal digits of an escape. -/
  | hex (l : Literal) (high : Option Nat) (left : Nat) (unit : Nat)
  /-- After an escaped high surrogate. -/
  | partner (l : Literal) (high : Nat)
  /-- The text is not JSON. -/
  | stuck
deriving Repr

/-- A lexeme with its digits in reading order. -/
def Lexeme.finish (l : Lexeme) : Lexeme :=
  ⟨l.negative, l.whole.reverse, l.fraction.reverse, l.exponent.map fun e => (e.1, e.2.reverse)⟩

/-- The automaton's state: the tokens read so far, in reverse, and the mode. -/
structure Scan where
  reversed : List Token := []
  mode : Mode := .between

namespace Scan

/-- One more token. -/
def emit (s : Scan) (t : Token) : Scan := ⟨t :: s.reversed, .between⟩

/-- No JSON from here on. -/
def fail (s : Scan) : Scan := ⟨.bad :: s.reversed, .stuck⟩

/-- A character between tokens. -/
def stepBetween (s : Scan) (c : Char) : Scan :=
  if c = ' ' ∨ c = '\x09' ∨ c = '\x0a' ∨ c = '\x0d' then { s with mode := .between }
  else if c = '[' then s.emit .openArray
  else if c = ']' then s.emit .closeArray
  else if c = '\x7b' then s.emit .openObject
  else if c = '\x7d' then s.emit .closeObject
  else if c = ',' then s.emit .comma
  else if c = ':' then s.emit .colon
  else if c = '\x22' then { s with mode := .literal {} }
  else if c = 'n' then { s with mode := .word ['u', 'l', 'l'] .null }
  else if c = 't' then { s with mode := .word ['r', 'u', 'e'] (.bool true) }
  else if c = 'f' then { s with mode := .word ['a', 'l', 's', 'e'] (.bool false) }
  else if c = '-' then { s with mode := .number .minus ⟨true, [], [], none⟩ }
  else if c = '0' then { s with mode := .number .zero ⟨false, ['0'], [], none⟩ }
  else if c.isDigit then { s with mode := .number .whole ⟨false, [c], [], none⟩ }
  else s.fail

/-- A character inside a number. -/
def stepNumber (s : Scan) (phase : NumberPhase) (l : Lexeme) (c : Char) : Scan :=
  let go (phase : NumberPhase) (l : Lexeme) : Scan := { s with mode := .number phase l }
  let stop : Scan := (s.emit (.number l.finish.number?)).stepBetween c
  let mark : Bool := c = 'e' || c = 'E'
  let pushPower (c : Char) : Lexeme :=
    { l with exponent := l.exponent.map fun e => (e.1, c :: e.2) }
  match phase with
  | .minus =>
    if c = '0' then go .zero { l with whole := ['0'] }
    else if c.isDigit then go .whole { l with whole := [c] }
    else s.fail
  | .zero =>
    if c.isDigit then s.fail
    else if c = '.' then go .point l
    else if mark then go .mark { l with exponent := some (false, []) }
    else stop
  | .whole =>
    if c.isDigit then go .whole { l with whole := c :: l.whole }
    else if c = '.' then go .point l
    else if mark then go .mark { l with exponent := some (false, []) }
    else stop
  | .point =>
    if c.isDigit then go .fraction { l with fraction := [c] } else s.fail
  | .fraction =>
    if c.isDigit then go .fraction { l with fraction := c :: l.fraction }
    else if mark then go .mark { l with exponent := some (false, []) }
    else stop
  | .mark =>
    if c = '+' then go .signed l
    else if c = '-' then go .signed { l with exponent := some (true, []) }
    else if c.isDigit then go .power (pushPower c)
    else s.fail
  | .signed => if c.isDigit then go .power (pushPower c) else s.fail
  | .power => if c.isDigit then go .power (pushPower c) else stop

/-- A character inside a string literal. -/
def stepLiteral (s : Scan) (l : Literal) (c : Char) : Scan :=
  if c = '\x22' then s.emit l.token
  else if c = '\x5c' then { s with mode := .escape l none }
  else if c.toNat < 32 then s.fail
  else { s with mode := .literal (l.push c) }

/-- A character after a backslash. -/
def stepEscape (s : Scan) (l : Literal) (high : Option Nat) (c : Char) : Scan :=
  let go (d : Char) : Scan :=
    { s with mode := .literal ((if high.isSome then l.spoil else l).push d) }
  if c = 'u' then { s with mode := .hex l high 4 0 }
  else if c = '\x22' ∨ c = '\x5c' ∨ c = '/' then go c
  else if c = 'b' then go '\x08'
  else if c = 'f' then go '\x0c'
  else if c = 'n' then go '\x0a'
  else if c = 'r' then go '\x0d'
  else if c = 't' then go '\x09'
  else s.fail

/-- The mode after the sixteen bits `unit` of an escape are complete. -/
def afterUnit (l : Literal) (high : Option Nat) (unit : Nat) : Mode :=
  match high with
  | none =>
    if 0xD800 ≤ unit ∧ unit < 0xDC00 then .partner l unit
    else if 0xDC00 ≤ unit ∧ unit < 0xE000 then .literal l.spoil
    else .literal (l.push (Char.ofNat unit))
  | some h =>
    if 0xDC00 ≤ unit ∧ unit < 0xE000 then
      .literal (l.push (Char.ofNat (0x10000 + (h - 0xD800) * 1024 + (unit - 0xDC00))))
    else .literal l.spoil

/-- A hexadecimal digit of an escape. -/
def stepHex (s : Scan) (l : Literal) (high : Option Nat) (left unit : Nat) (c : Char) : Scan :=
  match Text.hexValue? c with
  | none => s.fail
  | some v =>
    if left ≤ 1 then { s with mode := afterUnit l high (16 * unit + v) }
    else { s with mode := .hex l high (left - 1) (16 * unit + v) }

/-- One character. -/
def step (s : Scan) (c : Char) : Scan :=
  match s.mode with
  | .between => s.stepBetween c
  | .word [] t => (s.emit t).stepBetween c
  | .word [d] t => if c = d then s.emit t else s.fail
  | .word (d :: ds) t => if c = d then { s with mode := .word ds t } else s.fail
  | .number phase l => s.stepNumber phase l c
  | .literal l => s.stepLiteral l c
  | .escape l high => s.stepEscape l high c
  | .hex l high left unit => s.stepHex l high left unit c
  | .partner l high =>
    if c = '\x5c' then { s with mode := .escape l (some high) } else s.stepLiteral l.spoil c
  | .stuck => s

/-- The tokens once the text has ended. -/
def finish (s : Scan) : List Token :=
  match s.mode with
  | .between | .stuck => s.reversed.reverse
  | .number phase l =>
    if phase.final then (s.emit (.number l.finish.number?)).reversed.reverse
    else s.fail.reversed.reverse
  | _ => s.fail.reversed.reverse

end Scan

/-- The tokens of a text. -/
def tokens (cs : List Char) : List Token := (cs.foldl Scan.step {}).finish

end Json

end ManifestRegistry
