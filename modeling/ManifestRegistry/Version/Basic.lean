/-
**Semantic versions.**

A semantic version is `major.minor.patch`, with an optional prerelease behind a hyphen and optional
build metadata behind a plus sign; one letter `v` or `V` in front is tolerated.  Prerelease
identifiers are numbers or words, and that difference is kept in their type.

Main definitions:

* `Version` — a semantic version;
* `Version.Identifier` — an identifier of a prerelease;
* `Version.parseChars?` — the strict grammar;
* `Version.parse?` — **a version string read as a semantic version**.
-/

import ManifestRegistry.Text.Decimal
import ManifestRegistry.Text.Split

set_option relaxedAutoImplicit false
set_option autoImplicit false

namespace ManifestRegistry

namespace Version

/-- An identifier of a prerelease: digits only, or with a letter or a hyphen among them. -/
inductive Identifier where
  | number (n : Nat)
  | word (cs : List Char)
deriving DecidableEq, Repr

/-- An identifier as it is written. -/
def Identifier.chars : Identifier → List Char
  | .number n => Nat.toDigits 10 n
  | .word cs => cs

end Version

/-- A semantic version. -/
structure Version where
  major : Nat
  minor : Nat
  patch : Nat
  /-- The identifiers of the prerelease; a release has none. -/
  pre : List Version.Identifier
  /-- The identifiers of the build metadata. -/
  build : List (List Char)
deriving DecidableEq, Repr

namespace Version

/-! ### The grammar -/

/-- The largest number in the core of a version. -/
def numberLimit : Nat := 0xffffffffffffffff

/-- Whether a digit string has no superfluous zero in front. -/
def noLeadingZero (ds : List Char) : Bool := ds.head? ≠ some '0' || ds.length = 1

/-- A number of the core: digits without a superfluous zero, within 64 bits. -/
def coreNumber? (ds : List Char) : Option Nat :=
  if noLeadingZero ds then
    match Text.digitsValue? ds with
    | some n => if n ≤ numberLimit then some n else none
    | none => none
  else none

/-- The characters of identifiers. -/
def isIdentifierChar (c : Char) : Bool := c.isAlphanum || c = '-'

/-- An identifier of a prerelease. -/
def preIdentifier? (cs : List Char) : Option Identifier :=
  if cs = [] then none
  else if cs.all Char.isDigit then
    if noLeadingZero cs then some (.number (Text.digitsValue cs)) else none
  else if cs.all isIdentifierChar then some (.word cs)
  else none

/-- An identifier of build metadata. -/
def buildIdentifier? (cs : List Char) : Option (List Char) :=
  if cs ≠ [] ∧ cs.all isIdentifierChar then some cs else none

/-- A version of the strict grammar. -/
def parseChars? (cs : List Char) : Option Version := do
  let (front, build) ←
    match Text.cut? '+' cs with
    | none => some (cs, [])
    | some (front, label) => ((Text.splitAll '.' label).mapM buildIdentifier?).map ((front, ·))
  let (core, pre) ←
    match Text.cut? '-' front with
    | none => some (front, [])
    | some (core, pre) => ((Text.splitAll '.' pre).mapM preIdentifier?).map ((core, ·))
  match Text.splitAll '.' core with
  | [major, minor, patch] =>
    return ⟨← coreNumber? major, ← coreNumber? minor, ← coreNumber? patch, pre, build⟩
  | _ => none

/-- A text without one `v` or `V` in front. -/
def dropLetter : List Char → List Char
  | 'v' :: cs | 'V' :: cs => cs
  | cs => cs

/-- A version string read as a semantic version. -/
def parse? (s : String) : Option Version := parseChars? (dropLetter s.toList)

/-- Whether a version string is a semantic version. -/
def isSemantic (s : String) : Bool := (parse? s).isSome

/-! ### Writing -/

/-- Identifiers with points between them. -/
def joined : List (List Char) → List Char
  | [] => []
  | [part] => part
  | part :: parts => part ++ '.' :: joined parts

/-- The prerelease as it is written; a release has an empty one. -/
def preText (v : Version) : String := String.ofList (joined (v.pre.map Identifier.chars))

/-- The build metadata as it is written. -/
def buildText (v : Version) : String := String.ofList (joined v.build)

end Version

end ManifestRegistry
