/-
**How deep a value may nest.**

A value is printed however deep it nests, but a text is read only as deep as the reader goes.  A value
that holds no double and repeats no key comes back as it is if it nests within that depth, and otherwise
does not come back at all.

Main definitions:

* `Json.depth` — how many containers are nested in a value;
* `Json.Tame` — a value that holds no double and repeats no key.

Main results:

* `Json.legible_iff` — **a tame value is legible exactly within its depth**;
* `Json.json?_printed_of_deep` — a value that nests deeper than a reader goes is not read.
-/

import ManifestRegistry.Proofs.Json.Tree

set_option relaxedAutoImplicit false
set_option autoImplicit false

namespace ManifestRegistry

namespace Json

mutual

/-- How many containers are nested in a value, itself included. -/
def depth : Json → Nat
  | .array items => depthItems items + 1
  | .object entries => depthEntries entries + 1
  | .null | .bool _ | .number _ | .text _ => 0

/-- How many containers are nested in items. -/
def depthItems : List Json → Nat
  | [] => 0
  | j :: js => max (depth j) (depthItems js)

/-- How many containers are nested in the values of entries. -/
def depthEntries : List (String × Json) → Nat
  | [] => 0
  | (_, j) :: es => max (depth j) (depthEntries es)

end

theorem depthItems_le {n : Nat} {js : List Json} : depthItems js ≤ n ↔ ∀ j ∈ js, depth j ≤ n := by
  induction js with
  | nil => simp [depthItems]
  | cons j js ih =>
      rw [depthItems, List.forall_mem_cons, ← ih]
      omega

theorem depthEntries_le {n : Nat} {es : List (String × Json)} :
    depthEntries es ≤ n ↔ ∀ e ∈ es, depth e.2 ≤ n := by
  induction es with
  | nil => simp [depthEntries]
  | cons e es ih =>
      rw [depthEntries, List.forall_mem_cons, ← ih]
      omega

mutual

/-- A value that holds no double and repeats no key. -/
def Tame : Json → Prop
  | .number (.float _) => False
  | .array items => TameItems items
  | .object entries => (entries.map Prod.fst).Nodup ∧ TameEntries entries
  | .null | .bool _ | .number (.integer _) | .text _ => True

/-- All items are tame. -/
def TameItems : List Json → Prop
  | [] => True
  | j :: js => Tame j ∧ TameItems js

/-- The values of all entries are tame. -/
def TameEntries : List (String × Json) → Prop
  | [] => True
  | (_, j) :: es => Tame j ∧ TameEntries es

end

mutual

/-- **A tame value is legible exactly within its depth.** -/
theorem legible_iff : {levels : Nat} → (j : Json) → Tame j → (Legible levels j ↔ depth j ≤ levels)
  | _, .null, _ => by simp [Legible, depth]
  | _, .bool _, _ => by simp [Legible, depth]
  | _, .number (.integer _), _ => by simp [Legible, depth]
  | _, .number (.float _), h => h.elim
  | _, .text _, _ => by simp [Legible, depth]
  | 0, .array _, _ => by simp [Legible, depth]
  | levels + 1, .array items, h => by
    rw [Legible, depth, legibleItems_iff_depth items h]
    omega
  | 0, .object _, _ => by simp [Legible, depth]
  | levels + 1, .object entries, h => by
    rw [Legible, depth, legibleEntries_iff_depth entries h.2]
    have hkeys := h.1
    simp only [hkeys, true_and]
    omega

theorem legibleItems_iff_depth : {levels : Nat} → (js : List Json) → TameItems js →
    (LegibleItems levels js ↔ depthItems js ≤ levels)
  | _, [], _ => by simp [LegibleItems, depthItems]
  | _, j :: js, h => by
    rw [LegibleItems, depthItems, legible_iff j h.1, legibleItems_iff_depth js h.2]
    omega

theorem legibleEntries_iff_depth : {levels : Nat} → (es : List (String × Json)) → TameEntries es →
    (LegibleEntries levels es ↔ depthEntries es ≤ levels)
  | _, [], _ => by simp [LegibleEntries, depthEntries]
  | _, (_, j) :: es, h => by
    rw [LegibleEntries, depthEntries, legible_iff j h.1, legibleEntries_iff_depth es h.2]
    omega

end

mutual

theorem depth_le_of_legible : {levels : Nat} → (j : Json) → Legible levels j → depth j ≤ levels
  | _, .null, _ | _, .bool _, _ | _, .number _, _ | _, .text _, _ => Nat.zero_le _
  | 0, .array _, h | 0, .object _, h => h.elim
  | _ + 1, .array items, h => Nat.succ_le_succ (depthItems_le_of_legible items h)
  | _ + 1, .object entries, h => Nat.succ_le_succ (depthEntries_le_of_legible entries h.2)

theorem depthItems_le_of_legible : {levels : Nat} → (js : List Json) → LegibleItems levels js →
    depthItems js ≤ levels
  | _, [], _ => Nat.zero_le _
  | _, j :: js, h => Nat.max_le.2 ⟨depth_le_of_legible j h.1, depthItems_le_of_legible js h.2⟩

theorem depthEntries_le_of_legible : {levels : Nat} → (es : List (String × Json)) →
    LegibleEntries levels es → depthEntries es ≤ levels
  | _, [], _ => Nat.zero_le _
  | _, (_, j) :: es, h => Nat.max_le.2 ⟨depth_le_of_legible j h.1, depthEntries_le_of_legible es h.2⟩

end

/-- An entry put among others nests no deeper than it or they do. -/
theorem depthEntries_insert_le {n : Nat} (k : String) {j : Json} {es : List (String × Json)}
    (hj : depth j ≤ n) (hes : depthEntries es ≤ n) : depthEntries (insert k j es) ≤ n := by
  induction es with
  | nil => exact Nat.max_le.2 ⟨hj, Nat.zero_le _⟩
  | cons e es ih =>
      obtain ⟨hhead, htail⟩ := Nat.max_le.1 hes
      unfold insert
      split
      · exact Nat.max_le.2 ⟨hj, htail⟩
      · exact Nat.max_le.2 ⟨hhead, ih htail⟩

mutual

theorem depth_le_of_json? : (levels : Nat) → (s : Source) → {j : Json} → s.json? levels = some j →
    depth j ≤ levels
  | _, .null, _, h | _, .bool _, _, h | _, .number _, _, h | _, .text _, _, h => by
    rw [Source.json?] at h
    obtain rfl := Option.some_inj.1 h
    exact Nat.zero_le _
  | _, .unreadable, _, h | _, .broken, _, h => by
    rw [Source.json?] at h
    cases h
  | 0, .array _, _, h | 0, .object _, _, h => by
    rw [Source.json?] at h
    cases h
  | levels + 1, .array items, _, h => by
    rw [Source.json?] at h
    obtain ⟨js, hjs, rfl⟩ := Option.map_eq_some_iff.1 h
    exact Nat.succ_le_succ (depthItems_le_of_items? levels items hjs)
  | levels + 1, .object entries, _, h => by
    rw [Source.json?] at h
    obtain ⟨es, hes, rfl⟩ := Option.map_eq_some_iff.1 h
    exact Nat.succ_le_succ (depthEntries_le_of_entries? levels [] entries (Nat.zero_le _) hes)

theorem depthItems_le_of_items? : (levels : Nat) → (ss : List Source) → {js : List Json} →
    Source.items? levels ss = some js → depthItems js ≤ levels
  | _, [], _, h => by
    rw [Source.items?] at h
    obtain rfl := Option.some_inj.1 h
    exact Nat.zero_le _
  | levels, s :: ss, _, h => by
    rw [Source.items?] at h
    cases hread : s.json? levels with
    | none =>
        rw [hread] at h
        cases h
    | some j =>
        rw [hread] at h
        obtain ⟨js, hjs, rfl⟩ := Option.map_eq_some_iff.1 h
        exact Nat.max_le.2 ⟨depth_le_of_json? levels s hread, depthItems_le_of_items? levels ss hjs⟩

theorem depthEntries_le_of_entries? : (levels : Nat) → (done : List (String × Json)) →
    (ss : List (Source × Source)) → {es : List (String × Json)} → depthEntries done ≤ levels →
    Source.entries? levels done ss = some es → depthEntries es ≤ levels
  | _, done, [], _, hdone, h => by
    rw [Source.entries?] at h
    obtain rfl := Option.some_inj.1 h
    exact hdone
  | levels, done, (key, s) :: ss, _, hdone, h => by
    cases key with
    | text k =>
        rw [Source.entries?] at h
        cases hread : s.json? levels with
        | none =>
            rw [hread] at h
            cases h
        | some j =>
            rw [hread] at h
            exact depthEntries_le_of_entries? levels (insert k j done) ss
              (depthEntries_insert_le k (depth_le_of_json? levels s hread) hdone) h
    | _ =>
        rw [Source.entries?] at h
        · cases h
        · simp

end

mutual

/-- The tree of a value nests as deep as the value does. -/
theorem nesting_printed : (j : Json) → j.printed.nesting = depth j
  | .null | .bool _ | .text _ | .number (.integer _) => rfl
  | .number (.float x) => by
    rw [printed, Number.node]
    split
    · rfl
    · split <;> rfl
  | .array items => congrArg (· + 1) (nestingItems_printedItems items)
  | .object entries => congrArg (· + 1) (nestingEntries_printedEntries entries)

theorem nestingItems_printedItems : (js : List Json) →
    Source.nestingItems (printedItems js) = depthItems js
  | [] => rfl
  | j :: js => congrArg₂ max (nesting_printed j) (nestingItems_printedItems js)

theorem nestingEntries_printedEntries : (es : List (String × Json)) →
    Source.nestingEntries (printedEntries es) = depthEntries es
  | [] => rfl
  | (_, j) :: es => congrArg₂ max (nesting_printed j) (nestingEntries_printedEntries es)

end

mutual

/-- **A value that nests deeper than a reader goes is not read**, whatever else is in it. -/
theorem json?_printed_of_deep : (levels : Nat) → (j : Json) → levels < depth j →
    j.printed.json? levels = none
  | _, .null, h | _, .bool _, h | _, .number _, h | _, .text _, h => absurd h (Nat.not_lt_zero _)
  | 0, .array _, _ => by rw [printed, Source.json?]
  | levels + 1, .array items, h => by
    rw [depth] at h
    rw [printed, Source.json?, items?_printedItems_of_deep levels items (by omega), Option.map_none]
  | 0, .object _, _ => by rw [printed, Source.json?]
  | levels + 1, .object entries, h => by
    rw [depth] at h
    rw [printed, Source.json?, entries?_printedEntries_of_deep levels [] entries (by omega),
      Option.map_none]

theorem items?_printedItems_of_deep : (levels : Nat) → (js : List Json) → levels < depthItems js →
    Source.items? levels (printedItems js) = none
  | _, [], h => absurd h (Nat.not_lt_zero _)
  | levels, j :: js, h => by
    rw [printedItems, Source.items?]
    cases hread : j.printed.json? levels with
    | none => rfl
    | some j' =>
        have hhead : ¬levels < depth j := by
          intro hdeep
          rw [json?_printed_of_deep levels j hdeep] at hread
          cases hread
        rw [depthItems] at h
        have hrest : levels < depthItems js := by omega
        simp only [items?_printedItems_of_deep levels js hrest, Option.map_none]

theorem entries?_printedEntries_of_deep : (levels : Nat) → (done es : List (String × Json)) →
    levels < depthEntries es → Source.entries? levels done (printedEntries es) = none
  | _, _, [], h => absurd h (Nat.not_lt_zero _)
  | levels, done, (k, j) :: es, h => by
    rw [printedEntries, Source.entries?]
    cases hread : j.printed.json? levels with
    | none => rfl
    | some j' =>
        have hhead : ¬levels < depth j := by
          intro hdeep
          rw [json?_printed_of_deep levels j hdeep] at hread
          cases hread
        rw [depthEntries] at h
        have hrest : levels < depthEntries es := by omega
        exact entries?_printedEntries_of_deep levels (insert k j' done) es hrest

end

end Json

end ManifestRegistry
