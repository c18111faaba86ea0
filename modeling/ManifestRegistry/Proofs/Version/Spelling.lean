/-
**How semantic versions are written.**

A version string is read as a semantic version exactly if it is the version as it is written: the three
numbers of its core as numerals without superfluous zeros, the prerelease behind a hyphen, the build
metadata behind a plus sign, and perhaps one letter in front.  So nothing about a version is lost when it
is read, and there is no other way to write it.

Main definitions:

* `Version.IsStrict` — the versions of the strict grammar;
* `Version.chars`, `Version.spelling` — **a version as it is written**, with a letter in front or not.

Main results:

* `Version.splitAll_eq_iff` — splitting at points and putting together are inverse;
* `Version.labelled_eq_some` — identifiers behind a mark are read exactly if they are written there;
* `Version.parseChars?_eq_some`, `Version.parse?_eq_some` — **the strict grammar**.
-/

import ManifestRegistry.Proofs.Text.Decimal
import ManifestRegistry.Proofs.Text.Split
import ManifestRegistry.Version.Basic

set_option relaxedAutoImplicit false
set_option autoImplicit false

namespace ManifestRegistry

namespace Version

/-! ### Written versions -/

/-- A word has letters, digits and hyphens only, and not only digits. -/
def Identifier.IsStrict : Identifier → Prop
  | .number _ => True
  | .word cs => (∀ c ∈ cs, isIdentifierChar c = true) ∧ ∃ c ∈ cs, c.isDigit = false

/-- Build metadata that are not empty and have letters, digits and hyphens only. -/
def IsLabel (cs : List Char) : Prop := cs ≠ [] ∧ ∀ c ∈ cs, isIdentifierChar c = true

/-- A version of the strict grammar. -/
structure IsStrict (v : Version) : Prop where
  major : v.major ≤ numberLimit
  minor : v.minor ≤ numberLimit
  patch : v.patch ≤ numberLimit
  pre : ∀ i ∈ v.pre, i.IsStrict
  build : ∀ label ∈ v.build, IsLabel label

/-- The core of a version as it is written. -/
def coreChars (v : Version) : List Char :=
  joined [Nat.toDigits 10 v.major, Nat.toDigits 10 v.minor, Nat.toDigits 10 v.patch]

/-- Parts with points between them behind a mark; nothing if there are none. -/
def behind (mark : Char) : List (List Char) → List Char
  | [] => []
  | part :: parts => mark :: joined (part :: parts)

/-- A version as it is written. -/
def chars (v : Version) : List Char :=
  v.coreChars ++ behind '-' (v.pre.map Identifier.chars) ++ behind '+' v.build

/-- What may stand in front of a version. -/
def letters : List (List Char) := [[], ['v'], ['V']]

/-- A version as it is written, with a letter in front or not. -/
def spelling (letter : List Char) (v : Version) : String := String.ofList (letter ++ v.chars)

/-! ### Points between parts -/

theorem joined_cons (part : List Char) {parts : List (List Char)} (h : parts ≠ []) :
    joined (part :: parts) = part ++ '.' :: joined parts := by
  cases parts with
  | nil => exact absurd rfl h
  | cons _ _ => rfl

theorem splitAll_joined {parts : List (List Char)} (hne : parts ≠ []) (h : ∀ part ∈ parts, '.' ∉ part) :
    Text.splitAll '.' (joined parts) = parts := by
  induction parts with
  | nil => exact absurd rfl hne
  | cons part parts ih =>
      have hpart := h part List.mem_cons_self
      by_cases hlast : parts = []
      · subst hlast
        exact Text.splitAll_of_not_mem hpart
      · rw [joined_cons part hlast, Text.splitAll_append hpart,
          ih hlast fun p hp => h p (List.mem_cons_of_mem _ hp)]

theorem joined_splitAll (cs : List Char) : joined (Text.splitAll '.' cs) = cs := by
  induction cs with
  | nil => rfl
  | cons c cs ih =>
      obtain ⟨part, parts, hcs, hsplit⟩ := Text.splitAll_cons '.' c cs
      rw [hcs] at ih
      rw [hsplit]
      split
      · rename_i hc
        rw [joined_cons [] (List.cons_ne_nil _ _), ih, hc, List.nil_append]
      · cases parts with
        | nil => exact congrArg (c :: ·) ih
        | cons p ps =>
            rw [joined_cons _ (List.cons_ne_nil _ _)] at ih ⊢
            exact congrArg (c :: ·) ih

/-- **Splitting at points and putting together are inverse.** -/
theorem splitAll_eq_iff {cs : List Char} {parts : List (List Char)} : Text.splitAll '.' cs = parts ↔
    parts ≠ [] ∧ (∀ part ∈ parts, '.' ∉ part) ∧ cs = joined parts := by
  constructor
  · rintro rfl
    exact ⟨Text.splitAll_ne_nil _ _, fun _ => Text.not_mem_of_mem_splitAll, (joined_splitAll cs).symm⟩
  · rintro ⟨hne, h, rfl⟩
    exact splitAll_joined hne h

theorem not_mem_joined {c : Char} (hc : c ≠ '.') {parts : List (List Char)} (h : ∀ part ∈ parts, c ∉ part) :
    c ∉ joined parts := by
  induction parts with
  | nil => exact List.not_mem_nil
  | cons part parts ih =>
      have hpart := h part List.mem_cons_self
      by_cases hlast : parts = []
      · subst hlast
        exact hpart
      · rw [joined_cons part hlast]
        simp [hpart, hc, ih fun p hp => h p (List.mem_cons_of_mem _ hp)]

theorem not_mem_behind {c mark : Char} (hc : c ≠ '.') (hmark : c ≠ mark) {parts : List (List Char)}
    (h : ∀ part ∈ parts, c ∉ part) : c ∉ behind mark parts := by
  cases parts with
  | nil => exact List.not_mem_nil
  | cons part parts =>
      refine List.not_mem_cons_of_ne_of_not_mem hmark ?_
      exact not_mem_joined hc h

/-! ### Numbers and identifiers -/

theorem noLeadingZero_iff {ds : List Char} :
    noLeadingZero ds = true ↔ ds.head? ≠ some '0' ∨ ds.length = 1 := by
  simp [noLeadingZero]

theorem coreNumber?_eq_some {ds : List Char} {n : Nat} :
    coreNumber? ds = some n ↔ n ≤ numberLimit ∧ ds = Nat.toDigits 10 n := by
  rw [Text.eq_toDigits_iff, ← noLeadingZero_iff]
  unfold coreNumber?
  split
  · rename_i hzero
    cases hdigits : Text.digitsValue? ds with
    | none => simp
    | some m =>
        simp only [hzero, Option.ite_none_right_eq_some, Option.some_inj, true_and]
        exact and_congr_left fun h => h ▸ Iff.rfl
  · simp_all

theorem preIdentifier?_eq_some {cs : List Char} {i : Identifier} :
    preIdentifier? cs = some i ↔ i.IsStrict ∧ cs = i.chars := by
  unfold preIdentifier?
  simp only [List.all_eq_true]
  cases i with
  | number n =>
      rw [Identifier.chars, Text.eq_toDigits_iff, ← noLeadingZero_iff, Text.digitsValue?_eq_some_iff]
      constructor
      · intro h
        split at h
        · cases h
        · rename_i hnil
          split at h
          · rename_i hdigits
            obtain ⟨hzero, hn⟩ := Option.ite_none_right_eq_some.1 h
            exact ⟨trivial, hzero, ⟨hnil, hdigits⟩, Identifier.number.inj (Option.some_inj.1 hn)⟩
          · cases (Option.ite_none_right_eq_some.1 h).2
      · rintro ⟨-, hzero, ⟨hnil, hdigits⟩, rfl⟩
        rw [if_neg hnil, if_pos hdigits, if_pos hzero]
  | word ds =>
      constructor
      · intro h
        split at h
        · cases h
        · split at h
          · cases (Option.ite_none_right_eq_some.1 h).2
          · rename_i hdigits
            obtain ⟨hchars, hds⟩ := Option.ite_none_right_eq_some.1 h
            obtain rfl := Identifier.word.inj (Option.some_inj.1 hds)
            obtain ⟨c, hc, hnot⟩ := by simpa using hdigits
            exact ⟨⟨hchars, c, hc, hnot⟩, rfl⟩
      · rintro ⟨⟨hchars, c, hc, hnot⟩, rfl⟩
        have hdigits : ¬∀ c ∈ cs, c.isDigit = true := fun h => Bool.eq_false_iff.1 hnot (h c hc)
        rw [if_neg (List.ne_nil_of_mem hc), if_neg hdigits, if_pos hchars]

theorem buildIdentifier?_eq_some {cs label : List Char} :
    buildIdentifier? cs = some label ↔ IsLabel label ∧ cs = label := by
  rw [buildIdentifier?, Option.ite_none_right_eq_some, List.all_eq_true, Option.some_inj]
  constructor
  · rintro ⟨h, rfl⟩
    exact ⟨h, rfl⟩
  · rintro ⟨h, rfl⟩
    exact ⟨h, rfl⟩

theorem not_mem_toDigits {c : Char} (h : c.isDigit = false) (n : Nat) : c ∉ Nat.toDigits 10 n := by
  intro hmem
  rw [Text.isDigit_of_mem_toDigits hmem] at h
  cases h

theorem IsLabel.not_mem {cs : List Char} (h : IsLabel cs) {c : Char} (hc : isIdentifierChar c = false) :
    c ∉ cs := by
  intro hmem
  rw [h.2 c hmem] at hc
  cases hc

theorem Identifier.IsStrict.not_mem {i : Identifier} (h : i.IsStrict) {c : Char}
    (hc : isIdentifierChar c = false) : c ∉ i.chars := by
  cases i with
  | number n =>
      have hplain : c.isAlphanum = false := (Bool.or_eq_false_iff.1 hc).1
      exact not_mem_toDigits (Bool.or_eq_false_iff.1 hplain).2 n
  | word cs =>
      intro hmem
      rw [h.1 c hmem] at hc
      cases hc

/-! ### The grammar -/

section

variable {α : Type} {read : List Char → Option α} {write : α → List Char} {P : α → Prop}

theorem mapM_eq_some (h : ∀ cs a, read cs = some a ↔ P a ∧ cs = write a) {parts : List (List Char)}
    {as : List α} : parts.mapM read = some as ↔ (∀ a ∈ as, P a) ∧ parts = as.map write := by
  induction parts generalizing as with
  | nil => cases as <;> simp
  | cons part parts ih =>
      rw [List.mapM_cons]
      simp only [Option.bind_eq_bind, Option.bind_eq_some_iff, Option.pure_def, Option.some_inj, h, ih]
      constructor
      · rintro ⟨a, ⟨ha, rfl⟩, bs, ⟨hbs, rfl⟩, rfl⟩
        exact ⟨List.forall_mem_cons.2 ⟨ha, hbs⟩, rfl⟩
      · rintro ⟨has, hparts⟩
        cases as with
        | nil => cases hparts
        | cons a as =>
            obtain ⟨rfl, rfl⟩ := List.cons.inj hparts
            obtain ⟨ha, has⟩ := List.forall_mem_cons.1 has
            exact ⟨a, ⟨ha, rfl⟩, as, ⟨has, rfl⟩, rfl⟩

/-- What stands before the first mark, and the parts behind it as they are read; without the mark there
are none. -/
def labelled (read : List Char → Option α) (mark : Char) (cs : List Char) : Option (List Char × List α) :=
  match Text.cut? mark cs with
  | none => some (cs, [])
  | some (front, label) => ((Text.splitAll '.' label).mapM read).map ((front, ·))

/-- **Parts behind a mark are read exactly if they are written there.** -/
theorem labelled_eq_some (h : ∀ cs a, read cs = some a ↔ P a ∧ cs = write a)
    (hpoint : ∀ a, P a → '.' ∉ write a) {mark : Char} {cs front : List Char} {as : List α} :
    labelled read mark cs = some (front, as) ↔
      mark ∉ front ∧ (∀ a ∈ as, P a) ∧ cs = front ++ behind mark (as.map write) := by
  unfold labelled
  cases hcut : Text.cut? mark cs with
  | none =>
      have hmark := Text.cut?_eq_none.1 hcut
      simp only [Option.some_inj, Prod.mk.injEq]
      constructor
      · rintro ⟨rfl, rfl⟩
        exact ⟨hmark, fun a ha => absurd ha List.not_mem_nil, (List.append_nil _).symm⟩
      · rintro ⟨-, -, rfl⟩
        cases as with
        | nil => exact ⟨List.append_nil _, rfl⟩
        | cons a as => exact absurd (List.mem_append_right _ List.mem_cons_self) hmark
  | some parts =>
      obtain ⟨before, label⟩ := parts
      have hbefore := Text.not_mem_of_cut? hcut
      obtain rfl := Text.eq_append_of_cut? hcut
      simp only [Option.map_eq_some_iff, Prod.mk.injEq, mapM_eq_some h, splitAll_eq_iff]
      constructor
      · rintro ⟨bs, ⟨hbs, hne, -, rfl⟩, rfl, rfl⟩
        refine ⟨hbefore, hbs, ?_⟩
        cases bs with
        | nil => exact absurd rfl hne
        | cons b bs => rfl
      · rintro ⟨hfront, has, he⟩
        cases as with
        | nil =>
            have hall : before ++ mark :: label = front := he.trans (List.append_nil front)
            exact absurd (hall ▸ List.mem_append_right _ List.mem_cons_self) hfront
        | cons a as =>
            rw [he, List.map_cons, behind, Text.cut?_append hfront] at hcut
            obtain ⟨rfl, rfl⟩ := Prod.mk.inj (Option.some_inj.1 hcut)
            refine ⟨a :: as, ⟨has, List.cons_ne_nil _ _, ?_, rfl⟩, rfl, rfl⟩
            intro part hpart
            obtain ⟨b, hb, rfl⟩ := List.mem_map.1 hpart
            exact hpoint b (has b hb)

end

/-- A version from the text of its core and what stands behind it. -/
def ofCore (pre : List Identifier) (build : List (List Char)) (core : List Char) : Option Version :=
  match Text.splitAll '.' core with
  | [major, minor, patch] => do
    return ⟨← coreNumber? major, ← coreNumber? minor, ← coreNumber? patch, pre, build⟩
  | _ => none

theorem ofCore_eq_some {pre : List Identifier} {build : List (List Char)} {core : List Char}
    {v : Version} : ofCore pre build core = some v ↔
      (v.major ≤ numberLimit ∧ v.minor ≤ numberLimit ∧ v.patch ≤ numberLimit) ∧ v.pre = pre ∧
        v.build = build ∧ core = v.coreChars := by
  obtain ⟨a, b, c, vpre, vbuild⟩ := v
  unfold ofCore
  constructor
  · intro h
    split at h
    · rename_i hsplit
      simp only [Option.bind_eq_bind, Option.bind_eq_some_iff, Option.pure_def, Option.some_inj,
        coreNumber?_eq_some, Version.mk.injEq] at h
      obtain ⟨_, ⟨ha, rfl⟩, _, ⟨hb, rfl⟩, _, ⟨hc, rfl⟩, rfl, rfl, rfl, rfl, rfl⟩ := h
      exact ⟨⟨ha, hb, hc⟩, rfl, rfl, (splitAll_eq_iff.1 hsplit).2.2⟩
    · cases h
  · rintro ⟨⟨ha, hb, hc⟩, rfl, rfl, rfl⟩
    have hpoint : ∀ n, '.' ∉ Nat.toDigits 10 n := not_mem_toDigits rfl
    rw [coreChars, splitAll_joined (List.cons_ne_nil _ _) (by simp [hpoint])]
    simp only [coreNumber?_eq_some.2 ⟨ha, rfl⟩, coreNumber?_eq_some.2 ⟨hb, rfl⟩,
      coreNumber?_eq_some.2 ⟨hc, rfl⟩]
    rfl

/-- A version is read from its end: the build metadata, the prerelease and the core. -/
theorem parseChars?_eq (cs : List Char) : parseChars? cs =
    (labelled buildIdentifier? '+' cs).bind fun a =>
      (labelled preIdentifier? '-' a.1).bind fun b => ofCore b.2 a.2 b.1 := by
  have hfront : ∀ a : List Char × List (List Char),
      ((labelled preIdentifier? '-' a.1).bind fun b => ofCore b.2 a.2 b.1) =
        match Text.cut? '-' a.1 with
        | none => ofCore [] a.2 a.1
        | some (core, pre) => (((Text.splitAll '.' pre).mapM preIdentifier?).map ((core, ·))).bind
          fun b => ofCore b.2 a.2 b.1 := by
    intro a
    unfold labelled
    cases Text.cut? '-' a.1 <;> rfl
  simp only [hfront]
  unfold parseChars? labelled
  cases Text.cut? '+' cs <;> rfl

theorem not_mem_coreChars {c : Char} (hpoint : c ≠ '.') (hc : c.isDigit = false) (v : Version) :
    c ∉ v.coreChars := by
  refine not_mem_joined hpoint fun part hpart => ?_
  simp only [List.mem_cons, List.not_mem_nil, or_false] at hpart
  rcases hpart with rfl | rfl | rfl <;> exact not_mem_toDigits hc _

/-- **The strict grammar**: what is read as a version is the version as it is written. -/
theorem parseChars?_eq_some {cs : List Char} {v : Version} :
    parseChars? cs = some v ↔ v.IsStrict ∧ cs = v.chars := by
  have hbuild : ∀ {cs front build}, labelled buildIdentifier? '+' cs = some (front, build) ↔
      '+' ∉ front ∧ (∀ label ∈ build, IsLabel label) ∧ cs = front ++ behind '+' (build.map id) :=
    labelled_eq_some (fun _ _ => buildIdentifier?_eq_some) fun _ h => h.not_mem rfl
  have hpre : ∀ {cs front pre}, labelled preIdentifier? '-' cs = some (front, pre) ↔
      '-' ∉ front ∧ (∀ i ∈ pre, i.IsStrict) ∧ cs = front ++ behind '-' (pre.map Identifier.chars) :=
    labelled_eq_some (fun _ _ => preIdentifier?_eq_some) fun _ h => h.not_mem rfl
  simp only [parseChars?_eq, Option.bind_eq_some_iff, Prod.exists, ofCore_eq_some, hbuild, hpre,
    List.map_id]
  constructor
  · rintro ⟨_, _, ⟨-, hlabels, rfl⟩, _, _, ⟨-, hids, rfl⟩, ⟨ha, hb, hc⟩, rfl, rfl, rfl⟩
    exact ⟨⟨ha, hb, hc, hids, hlabels⟩, rfl⟩
  · rintro ⟨h, rfl⟩
    -- neither mark stands before the place where it was put
    have hhyphen : '-' ∉ v.coreChars := not_mem_coreChars (by decide) rfl v
    have hplus : '+' ∉ v.coreChars ++ behind '-' (v.pre.map Identifier.chars) := by
      refine List.not_mem_append (not_mem_coreChars (by decide) rfl v) ?_
      refine not_mem_behind (by decide) (by decide) fun part hpart => ?_
      obtain ⟨i, hi, rfl⟩ := List.mem_map.1 hpart
      exact (h.pre i hi).not_mem rfl
    exact ⟨_, v.build, ⟨hplus, h.build, rfl⟩, v.coreChars, v.pre, ⟨hhyphen, h.pre, rfl⟩,
      ⟨h.major, h.minor, h.patch⟩, rfl, rfl, rfl⟩

theorem exists_chars_eq (v : Version) : ∃ d cs, d.isDigit = true ∧ v.chars = d :: cs := by
  obtain ⟨d, cs, hcs⟩ := List.exists_cons_of_ne_nil (Nat.toDigits_ne_nil (b := 10) (n := v.major))
  have hd : d.isDigit = true := Text.isDigit_of_mem_toDigits (hcs ▸ List.mem_cons_self)
  have hcore : v.coreChars =
      d :: (cs ++ '.' :: joined [Nat.toDigits 10 v.minor, Nat.toDigits 10 v.patch]) := by
    rw [coreChars, joined_cons _ (List.cons_ne_nil _ _), hcs, List.cons_append]
  exact ⟨d, _, hd, by rw [chars, hcore, List.cons_append, List.cons_append]⟩

theorem dropLetter_eq_chars {cs : List Char} {v : Version} :
    dropLetter cs = v.chars ↔ ∃ letter ∈ letters, cs = letter ++ v.chars := by
  obtain ⟨d, ds, hd, hv⟩ := v.exists_chars_eq
  constructor
  · unfold dropLetter
    split
    · rintro rfl
      exact ⟨['v'], by simp [letters], rfl⟩
    · rintro rfl
      exact ⟨['V'], by simp [letters], rfl⟩
    · rintro rfl
      exact ⟨[], by simp [letters], rfl⟩
  · rintro ⟨letter, hletter, rfl⟩
    simp only [letters, List.mem_cons, List.not_mem_nil, or_false] at hletter
    rcases hletter with rfl | rfl | rfl
    · rw [List.nil_append, hv]
      unfold dropLetter
      split
      · rename_i he
        obtain ⟨rfl, -⟩ := List.cons.inj he
        cases hd
      · rename_i he
        obtain ⟨rfl, -⟩ := List.cons.inj he
        cases hd
      · rfl
    · rfl
    · rfl

/-- **A string is read as a version exactly if it is one of the version's spellings.** -/
theorem parse?_eq_some {s : String} {v : Version} :
    parse? s = some v ↔ v.IsStrict ∧ ∃ letter ∈ letters, s = v.spelling letter := by
  rw [parse?, parseChars?_eq_some, dropLetter_eq_chars]
  refine and_congr_right fun _ => exists_congr fun letter => and_congr_right fun _ => ?_
  rw [spelling, ← String.toList_inj, String.toList_ofList]

end Version

end ManifestRegistry
