/-
**Which version is latest.**

Version strings are free.  Two semantic versions compare by their precedence, in which build
metadata counts for nothing; two other strings compare by the time of publication; a semantic
version is above any other string, and the empty string is below everything.

Main definitions:

* `Version.Identifier.order`, `Version.preOrder` — identifiers and prereleases;
* `Version.precedence` — semantic versions;
* `Version.Rank` — the place of a version string among all;
* `Version.order` — **the order of published versions**;
* `Version.supersedes` — whether a version takes over as the latest one.
-/

import ManifestRegistry.Instant.Basic
import ManifestRegistry.Text.Order
import ManifestRegistry.Version.Basic

set_option relaxedAutoImplicit false
set_option autoImplicit false

namespace ManifestRegistry

namespace Version

/-! ### Semantic versions -/

/-- Numbers compare by value and come before words. -/
def Identifier.order : Identifier → Identifier → Ordering
  | .number m, .number n => compare m n
  | .number _, .word _ => .lt
  | .word _, .number _ => .gt
  | .word a, .word b => Text.order a b

/-- Lists of identifiers from left to right; a list comes before its continuations. -/
def identifiersOrder : List Identifier → List Identifier → Ordering
  | [], [] => .eq
  | [], _ :: _ => .lt
  | _ :: _, [] => .gt
  | a :: as, b :: bs => (a.order b).then (identifiersOrder as bs)

/-- Prereleases; having none is above having any. -/
def preOrder : List Identifier → List Identifier → Ordering
  | [], [] => .eq
  | [], _ :: _ => .gt
  | _ :: _, [] => .lt
  | a :: as, b :: bs => identifiersOrder (a :: as) (b :: bs)

/-- The precedence of semantic versions. -/
def precedence (a b : Version) : Ordering :=
  (compare a.major b.major).then <| (compare a.minor b.minor).then <|
    (compare a.patch b.patch).then (preOrder a.pre b.pre)

/-! ### Published versions -/

/-- The place of a version string, published at some time, among all. -/
inductive Rank where
  | empty
  | other (published : Instant)
  | semantic (v : Version)

/-- The rank of a version string. -/
def rank (raw : String) (published : Instant) : Rank :=
  if raw.isEmpty then .empty
  else
    match parse? raw with
    | some v => .semantic v
    | none => .other published

/-- The order of ranks. -/
def Rank.order : Rank → Rank → Ordering
  | .empty, .empty => .eq
  | .empty, _ => .lt
  | _, .empty => .gt
  | .other s, .other t => s.order t
  | .other _, .semantic _ => .lt
  | .semantic _, .other _ => .gt
  | .semantic a, .semantic b => a.precedence b

/-- The order of a version string published at one time and another published at another. -/
def order (a : String) (aPublished : Instant) (b : String) (bPublished : Instant) : Ordering :=
  (rank a aPublished).order (rank b bPublished)

/-- Whether the candidate takes over from the current latest version. -/
def supersedes (candidate : String) (candidatePublished : Instant) (current : String)
    (currentPublished : Instant) : Bool :=
  order candidate candidatePublished current currentPublished = .gt

end Version

end ManifestRegistry
