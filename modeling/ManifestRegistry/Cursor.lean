/-
**Cursors.**

A cursor names a place in a store's order: the sequence number of the last record of a page.  To
callers it is opaque, the number's numeral in Base64.

Main definitions:

* `Cursor` — a place in the order;
* `Cursor.encode` — its text;
* `Cursor.parse?` — **the cursor of a text**.
-/

import ManifestRegistry.Base64
import ManifestRegistry.Text.Decimal

set_option relaxedAutoImplicit false
set_option autoImplicit false

namespace ManifestRegistry

/-- A place in a store's order. -/
structure Cursor where
  sequence : Nat
deriving DecidableEq, Repr

namespace Cursor

/-- The largest sequence number a cursor may name. -/
def limit : Nat := 0xffffffffffffffff

/-- The text of a cursor. -/
def encode (c : Cursor) : String :=
  String.ofList (Base64.encode ((Nat.toDigits 10 c.sequence).map Char.toNat))

/-- The cursor of a text: Base64 of a numeral of at most 64 bits. -/
def parseChars? (cs : List Char) : Option Cursor :=
  match Base64.decode cs with
  | none => none
  | some bytes => (Text.natural? limit (bytes.map Char.ofNat)).map Cursor.mk

/-- The cursor of a text. -/
def parse? (s : String) : Option Cursor := parseChars? s.toList

/-- The order of cursors is that of their sequence numbers. -/
def order (a b : Cursor) : Ordering := compare a.sequence b.sequence

end Cursor

end ManifestRegistry
