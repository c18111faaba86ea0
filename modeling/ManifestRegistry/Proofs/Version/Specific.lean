/-
**Which semantic versions are taken for ranges.**

A version string is taken for a range if it has marks that only ranges have, or if one of its parts
between points is nothing but the letter `x`.  A semantic version has none of the marks, and it has digits
in the parts of its core; but its identifiers are free, and one that stands between two points, or behind
the last one, is such a part.  So the check and the grammar agree on all semantic versions but those with
an identifier `x` that no hyphen and no plus sign joins to something else.

Main definitions:

* `Version.joinedBy` — parts, and others that are joined to them by a mark;
* `Version.standalone` — **the identifiers of a version that stand between points**.

Main results:

* `Version.splitAll_written` — the parts between the points of a written version;
* `Version.looksLikeRange_written` — **when a written version looks like a range**;
* `Version.specific_iff` — which semantic versions can be published;
* `Version.exists_refused` — one that cannot.
-/

import ManifestRegistry.Proofs.Version.Spelling
import ManifestRegistry.Version.Specific

set_option relaxedAutoImplicit false
set_option autoImplicit false

namespace ManifestRegistry

namespace Text

/-- What stands in a text has its first character there. -/
theorem mem_of_contains {c : Char} {part cs : List Char} (h : contains (c :: part) cs = true) :
    c ∈ cs := by
  induction cs with
  | nil => cases h
  | cons d cs ih =>
      simp only [contains, startsWith, Bool.or_eq_true, Bool.and_eq_true, decide_eq_true_eq] at h
      rcases h with ⟨rfl, -⟩ | h
      · exact List.mem_cons_self
      · exact List.mem_cons_of_mem _ (ih h)

theorem foldCase_eq_x {c : Char} : foldCase c = 'x' ↔ c = 'x' ∨ c = 'X' := by
  constructor
  · intro h
    unfold foldCase Char.toLower at h
    split at h
    · have hval : c.val + ('a'.val - 'A'.val) = 'X'.val + ('a'.val - 'A'.val) := congrArg Char.val h
      exact .inr (Char.ext ((UInt32.add_left_inj _).1 hval))
    · exact .inl h
  · rintro (rfl | rfl) <;> rfl

theorem sameFolded_x {cs : List Char} : sameFolded cs ['x'] = true ↔ cs = ['x'] ∨ cs = ['X'] := by
  have hx : ['x'].map foldCase = ['x'] := rfl
  rw [sameFolded, decide_eq_true_eq, hx]
  constructor
  · intro h
    obtain ⟨c, rfl, hc⟩ := List.map_eq_singleton_iff.1 h
    rcases foldCase_eq_x.1 hc with rfl | rfl
    · exact .inl rfl
    · exact .inr rfl
  · rintro (rfl | rfl) <;> rfl

end Text

namespace Version

variable {mark : Char} {part : List Char} {parts more : List (List Char)}

/-! ### Parts joined by a mark -/

/-- Parts, and others the first of which is joined to the last of them by a mark. -/
def joinedBy (mark : Char) (parts : List (List Char)) : List (List Char) → List (List Char)
  | [] => parts
  | first :: more => parts.dropLast ++ (parts.getLast?.getD [] ++ mark :: first) :: more

/-- What stands in front of parts with points between them stands in front of the first. -/
theorem joined_append (front : List Char) (part : List Char) (parts : List (List Char)) :
    joined ((front ++ part) :: parts) = front ++ joined (part :: parts) := by
  cases parts with
  | nil => rfl
  | cons _ _ => exact List.append_assoc ..

theorem joined_joinedBy (mark : Char) (hne : parts ≠ []) (more : List (List Char)) :
    joined (joinedBy mark parts more) = joined parts ++ behind mark more := by
  cases more with
  | nil => exact (List.append_nil _).symm
  | cons first more =>
      induction parts with
      | nil => exact absurd rfl hne
      | cons part parts ih =>
          cases parts with
          | nil =>
              show joined ((part ++ mark :: first) :: more) = part ++ mark :: joined (first :: more)
              rw [joined_append]
              exact congrArg (part ++ ·) (joined_append [mark] first more)
          | cons next parts =>
              rw [joined_cons part (List.cons_ne_nil _ _), List.append_assoc, List.cons_append,
                ← ih (List.cons_ne_nil _ _)]
              refine joined_cons part ?_
              exact List.append_ne_nil_of_right_ne_nil _ (List.cons_ne_nil _ _)

theorem joinedBy_ne_nil (hne : parts ≠ []) : joinedBy mark parts more ≠ [] := by
  cases more with
  | nil => exact hne
  | cons first more => exact List.append_ne_nil_of_right_ne_nil _ (List.cons_ne_nil _ _)

/-- A character that is not the mark and in none of the parts is in none of those joined. -/
theorem not_mem_of_mem_joinedBy {c : Char} (hc : c ≠ mark) (hparts : ∀ part ∈ parts, c ∉ part)
    (hmore : ∀ part ∈ more, c ∉ part) : ∀ part ∈ joinedBy mark parts more, c ∉ part := by
  cases more with
  | nil => exact hparts
  | cons first more =>
      obtain ⟨hfirst, hmore⟩ := List.forall_mem_cons.1 hmore
      refine List.forall_mem_append.2 ⟨fun part hpart => hparts part (List.dropLast_subset _ hpart), ?_⟩
      refine List.forall_mem_cons.2 ⟨List.not_mem_append ?_ ?_, hmore⟩
      · cases hlast : parts.getLast? with
        | none => exact List.not_mem_nil
        | some part => exact hparts part (List.mem_of_getLast? hlast)
      · exact List.not_mem_cons_of_ne_of_not_mem hc hfirst

/-- A part without the mark is one of those joined if it is one of the parts or of the others and does not
stand at the mark. -/
theorem mem_joinedBy (hmark : mark ∉ part) : part ∈ joinedBy mark parts more ↔
    part ∈ (if more = [] then parts else parts.dropLast) ++ more.tail := by
  cases more with
  | nil => simp [joinedBy]
  | cons first more =>
      have hne : part ≠ parts.getLast?.getD [] ++ mark :: first := by
        rintro rfl
        simp at hmark
      simp [joinedBy, hne]

theorem mem_dropLast_joinedBy (hmark : mark ∉ part) : part ∈ (joinedBy mark parts more).dropLast ↔
    part ∈ parts.dropLast ++ more.tail.dropLast := by
  cases more with
  | nil => simp [joinedBy]
  | cons first more =>
      have hne : part ≠ parts.getLast?.getD [] ++ mark :: first := by
        rintro rfl
        simp at hmark
      rw [joinedBy, List.dropLast_append_cons]
      cases more <;> simp [hne]

/-! ### The parts of a written version -/

/-- The parts between points of the core of a version, with a letter in front of the first or not. -/
def coreParts (letter : List Char) (v : Version) : List (List Char) :=
  [letter ++ Nat.toDigits 10 v.major, Nat.toDigits 10 v.minor, Nat.toDigits 10 v.patch]

/-- The identifiers of a version that stand between two points or behind the last one: those that neither
the hyphen nor the plus sign joins to what stands before. -/
def standalone (v : Version) : List (List Char) :=
  let pre := (v.pre.map Identifier.chars).tail
  (if v.build = [] then pre else pre.dropLast) ++ v.build.tail

theorem exists_digit_of_mem_coreParts {letter : List Char} {v : Version}
    (h : part ∈ coreParts letter v) : ∃ c ∈ part, c.isDigit = true := by
  have hdigits : ∀ n, ∃ c ∈ Nat.toDigits 10 n, c.isDigit = true := by
    intro n
    obtain ⟨c, cs, hcs⟩ := List.exists_cons_of_ne_nil (Nat.toDigits_ne_nil (b := 10) (n := n))
    have hc : c ∈ Nat.toDigits 10 n := hcs ▸ List.mem_cons_self
    exact ⟨c, hc, Text.isDigit_of_mem_toDigits hc⟩
  simp only [coreParts, List.mem_cons, List.not_mem_nil, or_false] at h
  rcases h with rfl | rfl | rfl
  · obtain ⟨c, hc, hd⟩ := hdigits v.major
    exact ⟨c, List.mem_append_right _ hc, hd⟩
  · exact hdigits v.minor
  · exact hdigits v.patch

variable {v : Version} {letter : List Char}

/-- **The parts between the points of a written version.** -/
theorem splitAll_written (h : v.IsStrict) (hletter : letter ∈ letters) :
    Text.splitAll '.' (letter ++ v.chars) =
      joinedBy '+' (joinedBy '-' (coreParts letter v) (v.pre.map Identifier.chars)) v.build := by
  have hne : coreParts letter v ≠ [] := List.cons_ne_nil _ _
  have hplain : '.' ∉ letter := by
    simp only [letters, List.mem_cons, List.not_mem_nil, or_false] at hletter
    rcases hletter with rfl | rfl | rfl <;> decide
  refine splitAll_eq_iff.2 ⟨joinedBy_ne_nil (joinedBy_ne_nil hne), ?_, ?_⟩
  · refine not_mem_of_mem_joinedBy (by decide) (not_mem_of_mem_joinedBy (by decide) ?_ ?_) ?_
    · have hdigits : ∀ n, '.' ∉ Nat.toDigits 10 n := not_mem_toDigits rfl
      simp [coreParts, hplain, hdigits]
    · rw [List.forall_mem_map]
      exact fun i hi => (h.pre i hi).not_mem rfl
    · exact fun label hlabel => (h.build label hlabel).not_mem rfl
  · rw [joined_joinedBy _ (joinedBy_ne_nil hne), joined_joinedBy _ hne, coreParts, joined_append, chars,
      coreChars, List.append_assoc, List.append_assoc, List.append_assoc]

/-- A part without digits and signs stands between the points of a written version exactly if it is one of
the identifiers that stand alone. -/
theorem mem_splitAll_written (h : v.IsStrict) (hletter : letter ∈ letters)
    (hplain : ∀ c ∈ part, c.isDigit = false ∧ c ≠ '-' ∧ c ≠ '+') :
    part ∈ Text.splitAll '.' (letter ++ v.chars) ↔ part ∈ v.standalone := by
  have hcore : part ∉ coreParts letter v := by
    intro hpart
    obtain ⟨c, hc, hd⟩ := exists_digit_of_mem_coreParts hpart
    rw [(hplain c hc).1] at hd
    cases hd
  have hhyphen : '-' ∉ part := fun hc => (hplain _ hc).2.1 rfl
  have hplus : '+' ∉ part := fun hc => (hplain _ hc).2.2 rfl
  have hdrop : part ∉ (coreParts letter v).dropLast := fun hpart => hcore (List.dropLast_subset _ hpart)
  rw [splitAll_written h hletter, mem_joinedBy hplus, standalone, List.mem_append, List.mem_append]
  refine or_congr_left ?_
  split
  · rw [mem_joinedBy hhyphen, List.mem_append]
    refine or_iff_right ?_
    split
    · exact hcore
    · exact hdrop
  · rw [mem_dropLast_joinedBy hhyphen, List.mem_append, or_iff_right hdrop]

/-! ### Versions that look like ranges -/

/-- What stands in a written version is a character of identifiers, a point or a plus sign. -/
theorem not_mem_written (h : v.IsStrict) (hletter : letter ∈ letters) {c : Char}
    (hc : isIdentifierChar c = false) (hpoint : c ≠ '.') (hplus : c ≠ '+') : c ∉ letter ++ v.chars := by
  obtain ⟨hplain, hhyphen⟩ := Bool.or_eq_false_iff.1 hc
  have hdigit : c.isDigit = false := (Bool.or_eq_false_iff.1 hplain).2
  refine List.not_mem_append ?_ (List.not_mem_append (List.not_mem_append ?_ ?_) ?_)
  · simp only [letters, List.mem_cons, List.not_mem_nil, or_false] at hletter
    rintro hmem
    rcases hletter with rfl | rfl | rfl
    · cases hmem
    · rw [List.mem_singleton.1 hmem] at hplain
      cases hplain
    · rw [List.mem_singleton.1 hmem] at hplain
      cases hplain
  · exact not_mem_coreChars hpoint hdigit v
  · refine not_mem_behind hpoint (of_decide_eq_false hhyphen) ?_
    rw [List.forall_mem_map]
    exact fun i hi => (h.pre i hi).not_mem hc
  · exact not_mem_behind hpoint hplus fun label hlabel => (h.build label hlabel).not_mem hc

/-- **A written version looks like a range exactly if an identifier that stands alone is the letter
`x`.** -/
theorem looksLikeRange_written (h : v.IsStrict) (hletter : letter ∈ letters) :
    looksLikeRange (letter ++ v.chars) = true ↔ ['x'] ∈ v.standalone ∨ ['X'] ∈ v.standalone := by
  have hmarks : (letter ++ v.chars).any isRangeMark = false := by
    rw [List.any_eq_false]
    intro c hc hmark
    simp only [isRangeMark, Bool.or_eq_true, decide_eq_true_eq] at hmark
    rcases hmark with ((((rfl | rfl) | rfl) | rfl) | rfl) | rfl <;>
      exact not_mem_written h hletter rfl (by decide) (by decide) hc
  have hbars : Text.contains ['|', '|'] (letter ++ v.chars) = false := by
    rw [Bool.eq_false_iff]
    intro hbars
    exact not_mem_written h hletter rfl (by decide) (by decide) (Text.mem_of_contains hbars)
  have hsmall : ∀ c ∈ ['x'], c.isDigit = false ∧ c ≠ '-' ∧ c ≠ '+' :=
    List.forall_mem_singleton.2 (by decide)
  have hlarge : ∀ c ∈ ['X'], c.isDigit = false ∧ c ≠ '-' ∧ c ≠ '+' :=
    List.forall_mem_singleton.2 (by decide)
  rw [looksLikeRange, hmarks, hbars, Bool.or_self, Bool.false_or, List.any_eq_true,
    ← mem_splitAll_written h hletter hsmall, ← mem_splitAll_written h hletter hlarge]
  simp only [Text.sameFolded_x]
  constructor
  · rintro ⟨part, hpart, rfl | rfl⟩
    · exact .inl hpart
    · exact .inr hpart
  · rintro (hpart | hpart)
    · exact ⟨_, hpart, .inl rfl⟩
    · exact ⟨_, hpart, .inr rfl⟩

theorem mem_point_written (v : Version) (letter : List Char) : '.' ∈ letter ++ v.chars := by
  have hcore : v.coreChars = Nat.toDigits 10 v.major ++
      '.' :: joined [Nat.toDigits 10 v.minor, Nat.toDigits 10 v.patch] :=
    joined_cons _ (List.cons_ne_nil _ _)
  simp [chars, hcore]

/-- **Which semantic versions can be published**: those of which no identifier that stands alone is the
letter `x`.  The others are told to be ranges, which they are not. -/
theorem specific_iff {s : String} {v : Version} (h : parse? s = some v) :
    (flaw? s = none ↔ ['x'] ∉ v.standalone ∧ ['X'] ∉ v.standalone) ∧
      ∀ reason, flaw? s = some reason →
        reason = "version '" ++ s ++ "' looks like a range; publish a specific version" := by
  obtain ⟨hstrict, letter, hletter, rfl⟩ := parse?_eq_some.1 h
  have hrange := looksLikeRange_written hstrict hletter
  have hword : Text.sameFolded (letter ++ v.chars) "latest".toList = false := by
    rw [Text.sameFolded, decide_eq_false_iff_not]
    intro hsame
    have hpoint : Text.foldCase '.' ∈ (letter ++ v.chars).map Text.foldCase :=
      List.mem_map_of_mem (mem_point_written v letter)
    rw [hsame] at hpoint
    exact absurd hpoint (by decide)
  rw [flaw?, spelling, String.toList_ofList, hword]
  simp only [Bool.false_eq_true, if_false]
  by_cases hlooks : looksLikeRange (letter ++ v.chars) = true
  · rw [if_pos hlooks]
    refine ⟨iff_of_false (Option.some_ne_none _) ?_, fun reason hreason => ?_⟩
    · rintro ⟨hsmall, hlarge⟩
      exact (hrange.1 hlooks).elim hsmall hlarge
    · exact (Option.some_inj.1 hreason).symm
  · rw [if_neg hlooks]
    refine ⟨iff_of_true rfl (not_or.1 (mt hrange.2 hlooks)), fun reason hreason => ?_⟩
    exact absurd hreason.symm (Option.some_ne_none reason)

/-- The letter `x` joined to something else, in both ways, does no harm. -/
theorem specific_iff_joined :
    parse? "v1.0.0-x.1.x-y+x" = some ⟨1, 0, 0, [.word ['x'], .number 1, .word ['x', '-', 'y']], [['x']]⟩ ∧
      flaw? "v1.0.0-x.1.x-y+x" = none := by
  have hparse : parse? "v1.0.0-x.1.x-y+x" =
      some ⟨1, 0, 0, [.word ['x'], .number 1, .word ['x', '-', 'y']], [['x']]⟩ := by decide
  exact ⟨hparse, (specific_iff hparse).1.2 (by decide)⟩

/-- **A semantic version that cannot be published**: it is told to be a range. -/
theorem exists_refused : isSemantic "1.0.0-alpha.x" = true ∧
    flaw? "1.0.0-alpha.x" =
      some "version '1.0.0-alpha.x' looks like a range; publish a specific version" := by
  decide

end Version

end ManifestRegistry
