/-
**Printed JSON read back.**

The text of a value is JSON throughout, so it is read as a tree without broken places and without
anything behind it.  The tree is that of the value, save for doubles, which need not come back as they
were.  A value that has none, repeats no key and does not nest too deep is read back as it is.

Main definitions:

* `Json.printed` — the tree of the text of a value;
* `Json.Legible` — a value that is read back as it is.

Main results:

* `Json.Document.ofText_compress` — **the tree of the text of a value**;
* `Json.json?_printed` — a legible value is read back;
* `Json.get?_printed` — what stands under a key of a printed value.
-/

import ManifestRegistry.Json.Source
import ManifestRegistry.Proofs.Json.Tokens

set_option relaxedAutoImplicit false
set_option autoImplicit false

namespace ManifestRegistry

namespace Json

/-! ### The tree of a text -/

/-- The tree of the text of a number. -/
def Number.node : Number → Source
  | .integer i => .number (.integer i)
  | .float x =>
    if x.isUnbounded then .null
    else
      match reread? x with
      | some n => .number n
      | none => .unreadable

mutual

/-- The tree of the text of a value. -/
def printed : Json → Source
  | .null => .null
  | .bool b => .bool b
  | .number n => n.node
  | .text s => .text s
  | .array items => .array (printedItems items)
  | .object entries => .object (printedEntries entries)

/-- The trees of the texts of items. -/
def printedItems : List Json → List Source
  | [] => []
  | j :: js => printed j :: printedItems js

/-- The trees of the texts of entries. -/
def printedEntries : List (String × Json) → List (Source × Source)
  | [] => []
  | (k, j) :: es => (.text k, printed j) :: printedEntries es

end

theorem put_array (rev : List Source) (frames : List Frame) (s : Source) :
    Builder.put (.array rev :: frames) s = .running (.array (s :: rev) :: frames) .separator := rfl

theorem put_object (rev : List (Source × Source)) (k : Source) (frames : List Frame) (s : Source) :
    Builder.put (.object rev (some k) :: frames) s =
      .running (.object ((k, s) :: rev) none :: frames) .separator := rfl

theorem leaf?_token (n : Number) : Builder.leaf? n.token = some n.node := by
  cases n with
  | integer i => rfl
  | float x =>
      simp only [Number.token, Number.node]
      split
      · rfl
      · cases reread? x <;> rfl

theorem step_number (frames : List Frame) (n : Number) :
    Builder.step (.running frames .value) n.token = Builder.put frames n.node := by
  have hleaf := leaf?_token n
  simp only [Builder.step, Builder.stepValue]
  split
  · rename_i h
    rw [h] at hleaf
    cases hleaf
  · rename_i h
    rw [h] at hleaf
    cases hleaf
  · rw [hleaf]

/-- The value after an opening bracket is read like any other: it is no closing bracket. -/
theorem foldl_valueOrClose (frames : List Frame) (j : Json) :
    j.tokenList.foldl Builder.step (.running frames .valueOrClose) =
      j.tokenList.foldl Builder.step (.running frames .value) := by
  cases j with
  | number n =>
      have hleaf := leaf?_token n
      simp only [tokenList, List.foldl_cons, List.foldl_nil, Builder.step]
      split
      · rename_i h
        rw [h] at hleaf
        cases hleaf
      · rfl
  | array items => cases items <;> rfl
  | object entries => cases entries <;> rfl
  | _ => rfl

mutual

theorem foldl_tokenList (frames : List Frame) : (j : Json) →
    j.tokenList.foldl Builder.step (.running frames .value) = Builder.put frames j.printed
  | .null => rfl
  | .bool _ => rfl
  | .number n => by
    rw [tokenList, List.foldl_cons, step_number, List.foldl_nil, printed]
  | .text _ => rfl
  | .array [] => rfl
  | .array (j :: js) => by
    have hopen : Builder.step (.running frames .value) .openArray =
        .running (.array [] :: frames) .valueOrClose := rfl
    rw [tokenList, List.foldl_cons, hopen, List.foldl_append, foldl_valueOrClose,
      foldl_tokenList (.array [] :: frames) j, List.foldl_append, put_array,
      foldl_itemsTokens frames [j.printed] js]
    simp [Builder.step, Builder.close, printed, printedItems]
  | .object [] => rfl
  | .object ((k, j) :: es) => by
    have hopen : Builder.step (.running frames .value) .openObject =
        .running (.object [] none :: frames) .keyOrClose := rfl
    have hkey : Builder.step (.running (.object [] none :: frames) .keyOrClose) (.text (some k)) =
        .running (.object [] (some (.text k)) :: frames) .colon := rfl
    have hcolon : Builder.step (.running (.object [] (some (.text k)) :: frames) .colon) .colon =
        .running (.object [] (some (.text k)) :: frames) .value := rfl
    rw [tokenList, List.foldl_cons, hopen, List.foldl_cons, hkey, List.foldl_cons, hcolon,
      List.foldl_append, foldl_tokenList (.object [] (some (.text k)) :: frames) j,
      List.foldl_append, put_object, foldl_entriesTokens frames [(.text k, j.printed)] es]
    simp [Builder.step, Builder.close, printed, printedEntries]

theorem foldl_itemsTokens (frames : List Frame) (rev : List Source) : (js : List Json) →
    (itemsTokens js).foldl Builder.step (.running (.array rev :: frames) .separator) =
      .running (.array ((printedItems js).reverse ++ rev) :: frames) .separator
  | [] => rfl
  | j :: js => by
    have hcomma : Builder.step (.running (.array rev :: frames) .separator) .comma =
        .running (.array rev :: frames) .value := rfl
    rw [itemsTokens, List.foldl_cons, hcomma, List.foldl_append,
      foldl_tokenList (.array rev :: frames) j, put_array,
      foldl_itemsTokens frames (j.printed :: rev) js]
    simp [printedItems]

theorem foldl_entriesTokens (frames : List Frame) (rev : List (Source × Source)) :
    (es : List (String × Json)) →
    (entriesTokens es).foldl Builder.step (.running (.object rev none :: frames) .separator) =
      .running (.object ((printedEntries es).reverse ++ rev) none :: frames) .separator
  | [] => rfl
  | (k, j) :: es => by
    have hcomma : Builder.step (.running (.object rev none :: frames) .separator) .comma =
        .running (.object rev none :: frames) .key := rfl
    have hkey : Builder.step (.running (.object rev none :: frames) .key) (.text (some k)) =
        .running (.object rev (some (.text k)) :: frames) .colon := rfl
    have hcolon : Builder.step (.running (.object rev (some (.text k)) :: frames) .colon) .colon =
        .running (.object rev (some (.text k)) :: frames) .value := rfl
    rw [entriesTokens, List.foldl_cons, hcomma, List.foldl_cons, hkey, List.foldl_cons, hcolon,
      List.foldl_append, foldl_tokenList (.object rev (some (.text k)) :: frames) j, put_object,
      foldl_entriesTokens frames ((.text k, j.printed) :: rev) es]
    simp [printedEntries]

end

/-- **The tree of the text of a value**, with nothing behind it. -/
theorem Document.ofText_compress (j : Json) : Document.ofText j.compress = ⟨j.printed, true⟩ := by
  rw [Document.ofText, compress, String.toList_ofList, tokens_chars, Document.ofTokens,
    foldl_tokenList]
  rfl

/-! ### Values without doubles -/

mutual

/-- A value that is read back as it is from a text in which `depth` containers may be nested: it holds
no double, repeats no key and does not nest too deep. -/
def Legible : Nat → Json → Prop
  | _, .null => True
  | _, .bool _ => True
  | _, .number (.integer _) => True
  | _, .number (.float _) => False
  | _, .text _ => True
  | 0, .array _ => False
  | depth + 1, .array items => LegibleItems depth items
  | 0, .object _ => False
  | depth + 1, .object entries => (entries.map Prod.fst).Nodup ∧ LegibleEntries depth entries

/-- All items are legible. -/
def LegibleItems : Nat → List Json → Prop
  | _, [] => True
  | depth, j :: js => Legible depth j ∧ LegibleItems depth js

/-- The values of all entries are legible. -/
def LegibleEntries : Nat → List (String × Json) → Prop
  | _, [] => True
  | depth, (_, j) :: es => Legible depth j ∧ LegibleEntries depth es

end

mutual

theorem Legible.mono {depth : Nat} : (j : Json) → {depth' : Nat} → Legible depth j →
    depth ≤ depth' → Legible depth' j
  | .null, _, _, _ => trivial
  | .bool _, _, _, _ => trivial
  | .number (.integer _), _, _, _ => trivial
  | .text _, _, _, _ => trivial
  | .array items, depth' + 1, h, hle => by
    cases depth with
    | zero => cases h
    | succ depth =>
        rw [Legible] at h ⊢
        exact LegibleItems.mono items h (by omega)
  | .array items, 0, h, hle => by
    obtain rfl : depth = 0 := by omega
    exact h
  | .object entries, depth' + 1, h, hle => by
    cases depth with
    | zero => cases h
    | succ depth =>
        rw [Legible] at h ⊢
        exact ⟨h.1, LegibleEntries.mono entries h.2 (by omega)⟩
  | .object entries, 0, h, hle => by
    obtain rfl : depth = 0 := by omega
    exact h

theorem LegibleItems.mono {depth : Nat} : (js : List Json) → {depth' : Nat} →
    LegibleItems depth js → depth ≤ depth' → LegibleItems depth' js
  | [], _, _, _ => trivial
  | j :: js, _, h, hle => ⟨Legible.mono j h.1 hle, LegibleItems.mono js h.2 hle⟩

theorem LegibleEntries.mono {depth : Nat} : (es : List (String × Json)) → {depth' : Nat} →
    LegibleEntries depth es → depth ≤ depth' → LegibleEntries depth' es
  | [], _, _, _ => trivial
  | (_, j) :: es, _, h, hle => ⟨Legible.mono j h.1 hle, LegibleEntries.mono es h.2 hle⟩

end

theorem legibleItems_iff {depth : Nat} {js : List Json} :
    LegibleItems depth js ↔ ∀ j ∈ js, Legible depth j := by
  induction js with
  | nil => simp [LegibleItems]
  | cons j js ih => simp [LegibleItems, ih]

theorem legibleEntries_iff {depth : Nat} {es : List (String × Json)} :
    LegibleEntries depth es ↔ ∀ e ∈ es, Legible depth e.2 := by
  induction es with
  | nil => simp [LegibleEntries]
  | cons e es ih =>
      obtain ⟨k, j⟩ := e
      simp [LegibleEntries, ih]

mutual

/-- **A legible value is read back.** -/
theorem json?_printed : (depth : Nat) → (j : Json) → Legible depth j →
    j.printed.json? depth = some j
  | _, .null, _ => rfl
  | _, .bool _, _ => rfl
  | _, .number (.integer _), _ => rfl
  | _, .text _, _ => rfl
  | depth + 1, .array items, h => by
    rw [Legible] at h
    rw [printed, Source.json?, items?_printedItems depth items h, Option.map_some]
  | depth + 1, .object entries, h => by
    rw [Legible] at h
    rw [printed, Source.json?, entries?_printedEntries depth [] entries (by simpa using h.1) h.2,
      Option.map_some]
    rfl

theorem items?_printedItems : (depth : Nat) → (js : List Json) → LegibleItems depth js →
    Source.items? depth (printedItems js) = some js
  | _, [], _ => rfl
  | depth, j :: js, h => by
    rw [LegibleItems] at h
    rw [printedItems, Source.items?, json?_printed depth j h.1]
    simp only [items?_printedItems depth js h.2, Option.map_some]

theorem entries?_printedEntries : (depth : Nat) → (done es : List (String × Json)) →
    ((done ++ es).map Prod.fst).Nodup → LegibleEntries depth es →
    Source.entries? depth done (printedEntries es) = some (done ++ es)
  | _, done, [], _, _ => by simp [printedEntries, Source.entries?]
  | depth, done, (k, j) :: es, hkeys, h => by
    rw [LegibleEntries] at h
    have hk : k ∉ done.map Prod.fst := by
      intro hmem
      rw [List.map_append] at hkeys
      exact (List.nodup_append.1 hkeys).2.2 k hmem k (by simp) rfl
    rw [printedEntries, Source.entries?, json?_printed depth j h.1]
    simp only [insert_of_not_mem hk]
    rw [entries?_printedEntries depth (done ++ [(k, j)]) es (by simpa using hkeys) h.2]
    simp

end

theorem printedItems_eq_map (js : List Json) : printedItems js = js.map printed := by
  induction js with
  | nil => rfl
  | cons j js ih => rw [printedItems, ih, List.map_cons]

theorem printedEntries_append (es fs : List (String × Json)) :
    printedEntries (es ++ fs) = printedEntries es ++ printedEntries fs := by
  induction es with
  | nil => rfl
  | cons e es ih => rw [List.cons_append, printedEntries, ih, printedEntries, List.cons_append]

/-! ### Looking up -/

theorem find?_printedEntries (key : String) (es : List (String × Json)) :
    ((printedEntries es).find? fun e => e.1.isText key).map Prod.snd =
      (es.lookup key).map printed := by
  induction es with
  | nil => rfl
  | cons e es ih =>
      obtain ⟨k, j⟩ := e
      rw [printedEntries, List.find?_cons, List.lookup_cons]
      by_cases hk : k = key
      · simp [Source.isText, hk]
      · have hne : (key == k) = false := by simpa using Ne.symm hk
        simp only [Source.isText, hk, decide_false, hne]
        exact ih

/-- **What the tree of a text has under a key is the tree of what the value has there.** -/
theorem get?_printed (key : String) (j : Json) : j.printed.get? key = (j.get? key).map printed := by
  cases j with
  | object es => exact find?_printedEntries key es
  | number n =>
      -- the text of a number is never that of an object
      cases n with
      | integer i => rfl
      | float x =>
          simp only [printed, Number.node]
          split
          · rfl
          · cases reread? x <;> rfl
  | _ => rfl

end Json

end ManifestRegistry
