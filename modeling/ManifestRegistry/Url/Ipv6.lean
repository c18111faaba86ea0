/-
**Network addresses of 128 bits in URLs.**

An address is eight pieces of up to four hexadecimal digits with colons between them; one run of
pieces may be left out between two colons, and the last two pieces may be written as four decimal
numbers with points between them.

Main definitions:

* `Url.Ipv6.isTail` — the four decimal numbers at the end;
* `Url.Ipv6.isAddress` — **whether a text is an address**.
-/

import ManifestRegistry.Text.Decimal
import ManifestRegistry.Text.Hex
import ManifestRegistry.Text.Split

set_option relaxedAutoImplicit false
set_option autoImplicit false

namespace ManifestRegistry

namespace Url

namespace Ipv6

/-- A decimal number of at most eight bits without a superfluous zero. -/
def isOctet (ds : List Char) : Bool :=
  match Text.digitsValue? ds with
  | some n => n ≤ 255 && (ds.head? ≠ some '0' || ds.length = 1)
  | none => false

/-- Four decimal numbers with points between them. -/
def isTail (cs : List Char) : Bool :=
  let parts := Text.splitAll '.' cs
  parts.length = 4 && parts.all isOctet

/-- Whether the number of pieces is right: eight, or any if a run was left out. -/
def isWhole (count : Nat) (compressed : Bool) : Bool := compressed || count = 8

/-- The digits of a piece and what follows them. -/
def piece (cs : List Char) : List Char × List Char :=
  let ds := (cs.takeWhile fun c => (Text.hexValue? c).isSome).take 4
  (ds, cs.drop ds.length)

/-- The pieces of an address behind `count` others, where `compressed` tells whether a run was left
out before; `fuel` is at least the number of characters. -/
def arePieces : (fuel : Nat) → (count : Nat) → (compressed : Bool) → List Char → Bool
  | _, count, compressed, [] => isWhole count compressed
  | 0, _, _, _ :: _ => false
  | fuel + 1, count, compressed, c :: cs =>
    if count = 8 then false
    else if c = ':' then !compressed && arePieces fuel (count + 1) true cs
    else
      match piece (c :: cs) with
      | (_, []) => isWhole (count + 1) compressed
      | ([], _) => false
      | (_, ':' :: rest) => rest ≠ [] && arePieces fuel (count + 1) compressed rest
      | (_, '.' :: _) => count ≤ 6 && isTail (c :: cs) && isWhole (count + 2) compressed
      | _ => false

/-- Whether a text is an address. -/
def isAddress (cs : List Char) : Bool :=
  match cs with
  | [] | [_] => false
  | ':' :: ':' :: rest => arePieces rest.length 1 true rest
  | ':' :: _ => false
  | cs => arePieces cs.length 0 false cs

end Ipv6

end Url

end ManifestRegistry
