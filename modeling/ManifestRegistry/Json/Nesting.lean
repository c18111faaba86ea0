/-
**Where a text nests too deep.**

Main definitions:

* `Json.Bracket`, `Json.Bracket.step` — following the brackets of a text;
* `Json.deepColumn?` — **the column of the first bracket that is nested too deep**.
-/

set_option relaxedAutoImplicit false
set_option autoImplicit false

namespace ManifestRegistry

namespace Json

/-- How deep a place in a text is nested, and whether it is inside a string. -/
structure Bracket where
  depth : Nat := 0
  inString : Bool := false
  escaped : Bool := false

/-- Whether a character begins a container. -/
def opens (c : Char) : Bool := c = '[' || c = '\x7b'

/-- Whether a character ends a container. -/
def closes (c : Char) : Bool := c = ']' || c = '\x7d'

/-- One character. -/
def Bracket.step (b : Bracket) (c : Char) : Bracket :=
  if b.inString then
    if b.escaped then { b with escaped := false }
    else if c = '\x5c' then { b with escaped := true }
    else if c = '\x22' then { b with inString := false }
    else b
  else if c = '\x22' then { b with inString := true }
  else if opens c then { b with depth := b.depth + 1 }
  else if closes c then { b with depth := b.depth - 1 }
  else b

/-- The column, counted in bytes from one, of the first bracket that is nested deeper than `limit`;
`column` is that of the next character. -/
def deepColumnFrom? (limit : Nat) (b : Bracket) (column : Nat) : List Char → Option Nat
  | [] => none
  | c :: cs =>
    let next := b.step c
    if limit < next.depth then some column
    else deepColumnFrom? limit next (column + c.utf8Size) cs

/-- The column, counted in bytes from one, of the first bracket that is nested deeper than `limit`.
-/
def deepColumn? (limit : Nat) (s : String) : Option Nat := deepColumnFrom? limit {} 1 s.toList

end Json

end ManifestRegistry
