/-
**Network addresses of 32 bits in URLs.**

A host whose last label is a number is meant as an address: up to four numbers, each decimal, octal
or hexadecimal, of which the last one fills what the others leave.

Main definitions:

* `Url.Ipv4.number?` — a number of an address;
* `Url.Ipv4.endsInNumber` — whether a host is meant as an address;
* `Url.Ipv4.isAddress` — **whether it is one**.
-/

import ManifestRegistry.Text.Decimal
import ManifestRegistry.Text.Hex
import ManifestRegistry.Text.Split

set_option relaxedAutoImplicit false
set_option autoImplicit false

namespace ManifestRegistry

namespace Url

namespace Ipv4

/-- The value of digits of a base up to sixteen. -/
def valueIn? (base : Nat) (ds : List Char) : Option Nat :=
  ds.foldlM (fun n c => (Text.hexValue? c).bind fun v => if v < base then some (base * n + v) else none)
    0

/-- A number of an address: hexadecimal behind `0x`, octal behind another `0`, else decimal; nothing
behind `0x` or `0` is zero. -/
def number? : List Char → Option Nat
  | [] => none
  | '0' :: 'x' :: ds | '0' :: 'X' :: ds => valueIn? 16 ds
  | '0' :: d :: ds => valueIn? 8 (d :: ds)
  | ds => valueIn? 10 ds

/-- The labels of a host without an empty one at the end. -/
def labels (host : List Char) : List (List Char) :=
  let parts := Text.splitAll '.' host
  if parts.getLast? = some [] then parts.dropLast else parts

/-- Whether the last label of a host is a number. -/
def endsInNumber (host : List Char) : Bool :=
  match (labels host).getLast? with
  | some last => (Text.digitsValue? last).isSome || (number? last).isSome
  | none => false

/-- Whether numbers fit into an address: each but the last into eight bits, the last one into what
is left. -/
def fits (numbers : List Nat) : Bool :=
  numbers.length ≤ 4 && numbers.dropLast.all (· < 256) &&
    match numbers.getLast? with
    | some last => last < 1 <<< (8 * (5 - numbers.length))
    | none => false

/-- Whether a host is an address. -/
def isAddress (host : List Char) : Bool :=
  match (labels host).mapM number? with
  | some numbers => fits numbers
  | none => false

end Ipv4

end Url

end ManifestRegistry
