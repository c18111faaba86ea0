/-
**Splitting a text at a mark.**

Main definitions:

* `Text.cut?` — the parts before and after the first mark, if there is one;
* `Text.splitAll` — the parts between all marks;
* `Text.contains` — whether one text stands somewhere in another.
-/

set_option relaxedAutoImplicit false
set_option autoImplicit false

namespace ManifestRegistry

namespace Text

/-- The parts before and after the first mark. -/
def cut? (mark : Char) : List Char → Option (List Char × List Char)
  | [] => none
  | c :: cs =>
    if c = mark then some ([], cs)
    else (cut? mark cs).map fun (before, after) => (c :: before, after)

/-- The parts between the marks; there is one more part than there are marks. -/
def splitAll (mark : Char) : List Char → List (List Char)
  | [] => [[]]
  | c :: cs =>
    match splitAll mark cs with
    | [] => [[]]
    | part :: parts => if c = mark then [] :: part :: parts else (c :: part) :: parts

/-- Whether `part` stands at the beginning of a text. -/
def startsWith : (part : List Char) → List Char → Bool
  | [], _ => true
  | _ :: _, [] => false
  | p :: ps, c :: cs => p = c && startsWith ps cs

/-- Whether `part` stands somewhere in a text. -/
def contains (part : List Char) : List Char → Bool
  | [] => startsWith part []
  | c :: cs => startsWith part (c :: cs) || contains part cs

/-- A letter in lower case if it is an ASCII letter, any other character as it is. -/
def foldCase (c : Char) : Char := c.toLower

/-- Whether two texts agree up to the case of ASCII letters. -/
def sameFolded (a b : List Char) : Bool := a.map foldCase = b.map foldCase

theorem splitAll_ne_nil (mark : Char) (cs : List Char) : splitAll mark cs ≠ [] := by
  induction cs with
  | nil => simp [splitAll]
  | cons c cs ih =>
    unfold splitAll
    split
    · simp
    · split <;> simp

/-- What stands before and after the first mark, put together again, is the whole. -/
theorem eq_append_of_cut? {mark : Char} {cs before after : List Char}
    (h : cut? mark cs = some (before, after)) : cs = before ++ mark :: after := by
  induction cs generalizing before with
  | nil => simp [cut?] at h
  | cons c cs ih =>
    unfold cut? at h
    split at h
    · simp only [Option.some.injEq, Prod.mk.injEq] at h
      obtain ⟨rfl, rfl⟩ := h
      simp_all
    · simp only [Option.map_eq_some_iff, Prod.mk.injEq, Prod.exists] at h
      obtain ⟨b, a, hb, rfl, rfl⟩ := h
      simp [ih hb]

end Text

end ManifestRegistry
