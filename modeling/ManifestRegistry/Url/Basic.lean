/-
**URLs.**

A URL is read as browsers do: blanks and controls around it and line breaks within it do not count,
a few schemes always have a host and tolerate any slashes in front of it, and a host may be a domain
or a network address.

Main definitions:

* `Url` — scheme and host of a URL;
* `Url.Flaw` — why a text is no URL;
* `Url.Scheme.kind` — what a scheme expects behind it;
* `Url.host?` — a host;
* `Url.authority?` — user, host and port;
* `Url.parse?` — **the URL of a text**.
-/

import ManifestRegistry.Url.Domain
import ManifestRegistry.Url.Ipv4
import ManifestRegistry.Url.Ipv6

set_option relaxedAutoImplicit false
set_option autoImplicit false

namespace ManifestRegistry

namespace Url

/-- The host of a URL. -/
inductive Host where
  | domain (name : List Char)
  | ipv4
  | ipv6
  /-- A host of a scheme that gives it no meaning. -/
  | plain (cs : List Char)
deriving DecidableEq, Repr

/-- Why a text is no URL. -/
inductive Flaw where
  | noScheme
  | emptyHost
  | badDomain
  | badDomainCharacter
  | badIpv4
  | badIpv6
  | badPort
deriving DecidableEq, Repr

/-- The wording of a flaw. -/
def Flaw.message : Flaw → String
  | .noScheme => "relative URL without a base"
  | .emptyHost => "empty host"
  | .badDomain => "invalid international domain name"
  | .badDomainCharacter => "invalid domain character"
  | .badIpv4 => "invalid IPv4 address"
  | .badIpv6 => "invalid IPv6 address"
  | .badPort => "invalid port number"

end Url

/-- Scheme and host of a URL. -/
structure Url where
  scheme : List Char
  host : Option Url.Host
deriving DecidableEq, Repr

namespace Url

/-! ### Characters that do not count -/

/-- Controls and the blank. -/
def isMargin (c : Char) : Bool := c.toNat ≤ 0x20

/-- Tabs and line breaks. -/
def isBreak (c : Char) : Bool := c = '\x09' || c = '\x0a' || c = '\x0d'

/-- The characters of a text that count. -/
def significant (cs : List Char) : List Char :=
  (((cs.dropWhile isMargin).reverse.dropWhile isMargin).reverse).filter fun c => !isBreak c

/-! ### Schemes -/

/-- What a scheme expects behind it. -/
inductive SchemeKind where
  /-- A host that may be absent. -/
  | file
  /-- A host. -/
  | special
  /-- Anything. -/
  | other
deriving DecidableEq

/-- Schemes that always have a host. -/
def specialSchemes : List String := ["http", "https", "ws", "wss", "ftp"]

/-- What a scheme expects behind it. -/
def schemeKind (scheme : List Char) : SchemeKind :=
  let name := String.ofList scheme
  if name = "file" then .file
  else if specialSchemes.contains name then .special
  else .other

/-- The characters of a scheme behind the first one. -/
def isSchemeChar (c : Char) : Bool := c.isAlphanum || c = '+' || c = '-' || c = '.'

/-- The scheme of a URL, in lower case, and what follows its colon. -/
def scheme? (cs : List Char) : Option (List Char × List Char) :=
  match Text.cut? ':' cs with
  | some (c :: front, rest) =>
    if c.isAlpha ∧ front.all isSchemeChar then some ((c :: front).map Text.foldCase, rest) else none
  | _ => none

/-! ### Hosts -/

/-- The bytes of a text in which two hexadecimal digits behind a percent sign stand for one byte. -/
def percentDecoded : List UInt8 → List UInt8
  | 0x25 :: h :: l :: rest =>
    match Text.hexValue? (Char.ofNat h.toNat), Text.hexValue? (Char.ofNat l.toNat) with
    | some a, some b => UInt8.ofNat (16 * a + b) :: percentDecoded rest
    | _, _ => 0x25 :: percentDecoded (h :: l :: rest)
  | b :: rest => b :: percentDecoded rest
  | [] => []

/-- A text with bytes decoded, if they are characters. -/
def decodedText? (cs : List Char) : Option (List Char) :=
  let bytes := percentDecoded (String.ofList cs).toUTF8.toList
  (String.fromUTF8? (ByteArray.mk bytes.toArray)).map String.toList

/-- Whether a host is meant as an address in brackets. -/
def inBrackets? (cs : List Char) : Option (Except Flaw Host) :=
  match cs with
  | '[' :: rest =>
    if rest.getLast? = some ']' ∧ Ipv6.isAddress rest.dropLast then some (.ok .ipv6)
    else some (.error .badIpv6)
  | _ => none

/-- A host that is a domain or an address. -/
def host? (cs : List Char) : Except Flaw Host :=
  match inBrackets? cs with
  | some result => result
  | none =>
    match (decodedText? cs).bind Domain.name? with
    | none => .error .badDomain
    | some [] => .error .emptyHost
    | some name =>
      if Ipv4.endsInNumber name then
        if Ipv4.isAddress name then .ok .ipv4 else .error .badIpv4
      else .ok (.domain name)

/-- Characters that no host has. -/
def isForbiddenInHost (c : Char) : Bool := c = '\x00' || " #/:<>?@[\\]^|".toList.contains c

/-- A host of a scheme that gives it no meaning. -/
def plainHost? (cs : List Char) : Except Flaw Host :=
  match inBrackets? cs with
  | some result => result
  | none => if cs.any isForbiddenInHost then .error .badDomainCharacter else .ok (.plain cs)

/-! ### Authorities -/

/-- Whether a character ends the authority. -/
def endsAuthority (kind : SchemeKind) (c : Char) : Bool :=
  c = '/' || c = '?' || c = '#' || (c = '\x5c' && kind ≠ .other)

/-- What stands before and after the last mark. -/
def cutLast? (mark : Char) (cs : List Char) : Option (List Char × List Char) :=
  (Text.cut? mark cs.reverse).map fun (after, before) => (before.reverse, after.reverse)

/-- Host and port: the part up to the first colon outside brackets, and what follows it. -/
def cutPort : (bracketed : Bool) → List Char → List Char × Option (List Char)
  | _, [] => ([], none)
  | bracketed, c :: cs =>
    if c = ':' ∧ !bracketed then ([], some cs)
    else
      let inside := if c = '[' then true else if c = ']' then false else bracketed
      let (host, port) := cutPort inside cs
      (c :: host, port)

/-- Whether digits are a port; none are the usual one. -/
def isPort (cs : List Char) : Bool :=
  let ds := cs.takeWhile (· ≠ '\x5c')
  ds.all Char.isDigit && Text.digitsValue ds ≤ 65535

/-- The host of an authority, the part of a URL in front of its path. -/
def authority? (kind : SchemeKind) (cs : List Char) : Except Flaw (Option Host) :=
  let front := cs.takeWhile fun c => !endsAuthority kind c
  let (user, server) := (cutLast? '@' front).getD ([], front)
  let (host, port) := cutPort false server
  if host = [] ∧ (kind = .special ∨ port.isSome ∨ (user ≠ [] ∧ user ≠ [':'])) then
    .error .emptyHost
  else if front = ['@'] ∧ front ≠ cs then .error .emptyHost
  else
    match if kind = .special then host? host else plainHost? host with
    | .error e => .error e
    | .ok h =>
      if (port.map isPort).getD true then .ok (if host = [] then none else some h)
      else .error .badPort

/-! ### URLs -/

/-- Whether a host is the name of a drive. -/
def isDrive : List Char → Bool
  | [c, m] => c.isAlpha && (m = ':' || m = '|')
  | _ => false

/-- The host of a file, which may be absent. -/
def fileHost? (cs : List Char) : Except Flaw (Option Host) :=
  match cs with
  | a :: b :: rest =>
    if (a = '/' ∨ a = '\x5c') ∧ (b = '/' ∨ b = '\x5c') then
      let host := rest.takeWhile fun c => !endsAuthority .file c
      if host = [] ∨ isDrive host then .ok none else (host? host).map some
    else .ok none
  | _ => .ok none

/-- The host behind a scheme. -/
def hostBehind? (scheme rest : List Char) : Except Flaw (Option Host) :=
  match schemeKind scheme with
  | .file => fileHost? rest
  | .special => authority? .special (rest.dropWhile fun c => c = '/' || c = '\x5c')
  | .other =>
    match rest with
    | '/' :: '/' :: rest => authority? .other rest
    | _ => .ok none

/-- The URL of a text. -/
def parse? (s : String) : Except Flaw Url :=
  match scheme? (significant s.toList) with
  | none => .error .noScheme
  | some (scheme, rest) => (hostBehind? scheme rest).map fun host => { scheme, host }

end Url

end ManifestRegistry
