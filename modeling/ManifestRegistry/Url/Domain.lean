/-
**Domains in URLs.**

A domain may be written in any script.  Its characters are first replaced by what they stand for, so
that case, width and decoration make no difference; a label that is written in ASCII for the sake of
old programs is decoded.  Then each label is checked: its characters, the invisible ones that govern
joining, and, if some label runs from right to left, the directions within each.

Main definitions:

* `Url.Domain.mapped?` — the characters that a domain's text stands for;
* `Url.Domain.joinersFit` — whether invisible joiners stand where they make a difference;
* `Url.Domain.directionsFit` — whether a label keeps to one direction;
* `Url.Domain.label?` — a label, decoded;
* `Url.Domain.name?` — **the name that a domain's text stands for**, if it is one.
-/

import ManifestRegistry.Text.Direction
import ManifestRegistry.Text.Joining
import ManifestRegistry.Text.Mark
import ManifestRegistry.Text.Split
import ManifestRegistry.Url.Domain.Images
import ManifestRegistry.Url.Domain.Kept
import ManifestRegistry.Url.Punycode

set_option relaxedAutoImplicit false
set_option autoImplicit false

namespace ManifestRegistry

namespace Url

namespace Domain

/-! ### Characters -/

/-- Whether a character is an ASCII character. -/
def isAscii (c : Char) : Bool := c.toNat < 0x80

/-- ASCII characters that a domain cannot have: controls, the blank, and those that mean something
in a URL. -/
def isForbidden (c : Char) : Bool :=
  c.toNat ≤ 0x20 || c.toNat = 0x7F || "#/:<>?@[\\]^|%".toList.contains c

/-- What a character stands for; nothing if no domain has it. -/
def standsFor? (c : Char) : Option (List Char) :=
  if isAscii c then some [Text.foldCase c]
  else if dropped.has c then some []
  else
    match image? c with
    | some cs => some cs
    | none => if refused.has c then none else some [c]

/-- The characters that a text stands for. -/
def mapped? (cs : List Char) : Option (List Char) := (cs.mapM standsFor?).map List.flatten

/-- Whether a character stands for itself. -/
def isKept (c : Char) : Bool :=
  if isAscii c then !isForbidden c && c = Text.foldCase c else !changed.has c

/-! ### Joiners -/

/-- Whether a letter of a set is met first when marks are passed over. -/
def reaches (sets : List Text.Boundaries) (cs : List Char) : Bool :=
  match cs.dropWhile Text.joinsThrough.has with
  | c :: _ => sets.any fun s => s.has c
  | [] => false

/-- Whether the invisible joiners of a text fit: each stands behind a sign that suppresses a vowel
or, if it asks for not joining, between letters that would join.  `before` holds the characters in
front in reverse. -/
def joinersFit (before : List Char) : List Char → Bool
  | [] => true
  | c :: cs =>
    let behindVirama := (before.head?.map Text.viramas.has).getD false
    let fits :=
      if c = '\u200d' then behindVirama
      else if c = '\u200c' then
        behindVirama || (reaches [Text.joinsBoth, Text.joinsAfter] before &&
          reaches [Text.joinsBoth, Text.joinsBefore] cs)
      else true
    fits && joinersFit (c :: before) cs

/-! ### Directions -/

/-- Directions that make a label run from right to left. -/
def turns : Text.Direction → Bool
  | .right | .arabicNumber => true
  | _ => false

/-- Whether a label keeps to one direction: it begins with a letter, holds nothing of the other
direction, and ends, marks aside, with a letter or a number. -/
def directionsFit (label : List Char) : Bool :=
  let ds := label.map Text.directionOf
  let last := (ds.reverse.dropWhile (· = .nonspacing)).head?
  match ds.head? with
  | none => true
  | some .right =>
    !ds.contains .left && !(ds.contains .europeanNumber && ds.contains .arabicNumber) &&
      (last = some .right || last = some .europeanNumber || last = some .arabicNumber)
  | some .left => !ds.any turns && (last = some .left || last = some .europeanNumber)
  | some _ => false

/-! ### Labels -/

/-- The characters of the longest label that is encoded or decoded. -/
def decodedLimit : Nat := 1000

/-- The characters of the longest text that is decoded. -/
def encodedLimit : Nat := 2000

/-- What follows the mark of a label written in ASCII. -/
def encoded? : List Char → Option (List Char)
  | 'x' :: 'n' :: '-' :: '-' :: rest => some rest
  | _ => none

/-- Whether the characters of a label go together. -/
def isSound (label : List Char) : Bool :=
  !(label.head?.map Text.marks.has).getD false && joinersFit [] label

/-- The decoded form of a label, if it can be part of a domain. -/
def label? (label : List Char) : Option (List Char) :=
  if label.any isForbidden then none
  else
    match encoded? label with
    | none =>
      if isSound label && (label.all isAscii || label.length ≤ decodedLimit) then some label else none
    | some rest =>
      match Punycode.decode? rest with
      | some decoded =>
        if rest.length ≤ encodedLimit ∧ !decoded.all isAscii ∧ decoded.all isKept ∧ isSound decoded
        then some decoded
        else none
      | none => none

/-- The name that a domain's text stands for, if it is one; labels written in ASCII stay so. -/
def name? (cs : List Char) : Option (List Char) :=
  match mapped? cs with
  | none => none
  | some name =>
    match (Text.splitAll '.' name).mapM label? with
    | none => none
    | some labels =>
      let turned := labels.any fun l => l.any fun c => turns (Text.directionOf c)
      if turned ∧ !labels.all directionsFit then none else some name

end Domain

end Url

end ManifestRegistry
