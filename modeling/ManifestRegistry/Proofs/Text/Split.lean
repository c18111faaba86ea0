/-
**Parts put together again.**

Cutting a text at its first mark and splitting it at all marks lose nothing: the parts are free of the
mark, and a text is cut and split where parts without the mark were put together.

Main results:

* `Text.cut?_append`, `Text.cut?_eq_none`, `Text.not_mem_of_cut?` — **where a text is cut**;
* `Text.splitAll_append`, `Text.splitAll_of_not_mem`, `Text.not_mem_of_mem_splitAll` — **where a text is
  split**.
-/

import ManifestRegistry.Text.Split

set_option relaxedAutoImplicit false
set_option autoImplicit false

namespace ManifestRegistry

namespace Text

variable {mark : Char} {cs before after part : List Char}

/-! ### Cutting -/

/-- A text is cut at a mark behind a part without it. -/
theorem cut?_append (h : mark ∉ before) (after : List Char) :
    cut? mark (before ++ mark :: after) = some (before, after) := by
  induction before with
  | nil => simp [cut?]
  | cons c cs ih =>
      obtain ⟨hc, hcs⟩ := not_or.1 (mt List.mem_cons.2 h)
      rw [List.cons_append, cut?, if_neg (Ne.symm hc), ih hcs]
      rfl

/-- A text without the mark is not cut. -/
theorem cut?_eq_none : cut? mark cs = none ↔ mark ∉ cs := by
  induction cs with
  | nil => simp [cut?]
  | cons c cs ih =>
      rw [cut?, List.mem_cons]
      by_cases hc : c = mark
      · simp [hc]
      · simp [hc, Ne.symm hc, ih]

/-- A text is cut at the first mark. -/
theorem not_mem_of_cut? (h : cut? mark cs = some (before, after)) : mark ∉ before := by
  induction cs generalizing before with
  | nil => cases h
  | cons c cs ih =>
      unfold cut? at h
      split at h
      · cases h
        exact List.not_mem_nil
      · rename_i hc
        obtain ⟨⟨b, a⟩, hb, he⟩ := Option.map_eq_some_iff.1 h
        cases he
        simp [Ne.symm hc, ih hb]

/-! ### Splitting -/

/-- A mark in front makes another part, and any other character belongs to the first one. -/
theorem splitAll_cons (mark c : Char) (cs : List Char) : ∃ part parts, splitAll mark cs = part :: parts ∧
    splitAll mark (c :: cs) = if c = mark then [] :: part :: parts else (c :: part) :: parts := by
  obtain ⟨part, parts, h⟩ := List.exists_cons_of_ne_nil (splitAll_ne_nil mark cs)
  exact ⟨part, parts, h, by rw [splitAll, h]⟩

/-- A text without the mark is one part. -/
theorem splitAll_of_not_mem (h : mark ∉ cs) : splitAll mark cs = [cs] := by
  induction cs with
  | nil => rfl
  | cons c cs ih =>
      obtain ⟨hc, hcs⟩ := not_or.1 (mt List.mem_cons.2 h)
      rw [splitAll, ih hcs]
      exact if_neg (Ne.symm hc)

/-- What stands before a mark is the first part if it is free of the mark. -/
theorem splitAll_append (h : mark ∉ part) (cs : List Char) :
    splitAll mark (part ++ mark :: cs) = part :: splitAll mark cs := by
  induction part with
  | nil =>
      obtain ⟨p, ps, hcs, hsplit⟩ := splitAll_cons mark mark cs
      rw [List.nil_append, hsplit, if_pos rfl, hcs]
  | cons c part ih =>
      obtain ⟨hc, hpart⟩ := not_or.1 (mt List.mem_cons.2 h)
      rw [List.cons_append, splitAll, ih hpart]
      exact if_neg (Ne.symm hc)

/-- No part has the mark. -/
theorem not_mem_of_mem_splitAll (h : part ∈ splitAll mark cs) : mark ∉ part := by
  induction cs generalizing part with
  | nil =>
      rw [List.mem_singleton.1 h]
      exact List.not_mem_nil
  | cons c cs ih =>
      obtain ⟨p, ps, hcs, hsplit⟩ := splitAll_cons mark c cs
      rw [hcs] at ih
      rw [hsplit] at h
      split at h
      · rcases List.mem_cons.1 h with rfl | h
        · exact List.not_mem_nil
        · exact ih h
      · rename_i hc
        rcases List.mem_cons.1 h with rfl | h
        · simp [Ne.symm hc, ih List.mem_cons_self]
        · exact ih (List.mem_cons_of_mem _ h)

end Text

end ManifestRegistry
