/-
**Objects read back.**

The document of an object is read entry by entry into a draft.  What each entry does to the draft is
told by its field alone, so the reading of a whole document is put together from small pieces: an
entry that is always there, one that may be left out, and one that is left out if its list is empty.

Main definitions:

* `Shape.Origin.Allows` — so many containers may still be nested;
* `Shape.Reads` — a shape reads the document of a value as the value;
* `Shape.Layout.Takes` — entries take one draft to another.

Main results:

* `Shape.Layout.Takes.entry`, `Shape.Layout.Takes.optional`, `Shape.Layout.Takes.list` — the pieces;
* `Shape.Layout.reads` — **a document whose entries fill the draft is read**;
* `Shape.decodeText_compress` — what is read of the text of a value.
-/

import ManifestRegistry.Manifest.Document
import ManifestRegistry.Proofs.Json.Tree

set_option relaxedAutoImplicit false
set_option autoImplicit false

namespace ManifestRegistry

open Json (printed printedItems printedEntries printedEntries_append printedItems_eq_map)

namespace Shape

variable {α β δ : Type}

/-! ### Nesting -/

/-- So many containers may still be nested. -/
def Origin.Allows (depth : Nat) : Origin → Prop
  | .text levels => depth ≤ levels
  | .value | .aside => True

/-- A container may be entered if one level is left, and inside it there is one level less. -/
theorem Origin.Allows.enter {o : Origin} {depth : Nat} (h : o.Allows (depth + 1)) :
    ∃ inner, o.enter = .ok inner ∧ inner.Allows depth := by
  cases o with
  | text levels =>
      cases levels with
      | zero => exact absurd h (Nat.not_succ_le_zero depth)
      | succ levels => exact ⟨.text levels, rfl, Nat.le_of_succ_le_succ h⟩
  | value => exact ⟨.value, rfl, trivial⟩
  | aside => exact ⟨.aside, rfl, trivial⟩

theorem Origin.Allows.mono {o : Origin} {depth depth' : Nat} (h : o.Allows depth)
    (hle : depth' ≤ depth) : o.Allows depth' := by
  cases o with
  | text levels => exact Nat.le_trans hle h
  | _ => trivial

/-! ### Simple shapes -/

/-- Wherever so many containers may be nested, a shape reads the document of a value as the value. -/
def Reads (shape : Shape α) (depth : Nat) (j : Json) (a : α) : Prop :=
  ∀ o : Origin, o.Allows depth → shape o (printed j) = .ok a

/-- What is read of the text of a value is what is read of the value's tree: the text has nothing
behind the value. -/
theorem decodeText_compress (shape : Shape α) (j : Json) :
    decodeText shape j.compress = shape (.text Json.nestingLimit) (printed j) := by
  rw [decodeText, Json.Document.ofText_compress]
  simp only [if_true]
  cases shape (.text Json.nestingLimit) (printed j) <;> rfl

theorem Reads.decodeText {shape : Shape α} {depth : Nat} {j : Json} {a : α}
    (h : Reads shape depth j a) (hdepth : depth ≤ Json.nestingLimit) :
    decodeText shape j.compress = .ok a := by
  rw [decodeText_compress]
  exact h (.text Json.nestingLimit) hdepth

theorem reads_string (s : String) : Reads string 0 (.text s) s := fun _ _ => rfl

theorem reads_bool (b : Bool) : Reads bool 0 (.bool b) b := fun _ _ => rfl

theorem reads_parsed {parse? : String → Option α} {expected text : String} {a : α}
    (h : parse? text = some a) : Reads (parsed parse? expected) 0 (.text text) a := by
  intro _ _
  simp only [parsed, printed, h]

theorem reads_variant {known : List (String × α)} {name : String} {a : α}
    (h : known.lookup name = some a) : Reads (variant known) 0 (.text name) a := by
  intro _ _
  simp only [variant, printed, named, h]

/-- A value that is not null is read as one that is there. -/
theorem Reads.optional {shape : Shape α} {depth : Nat} {j : Json} {a : α}
    (h : Reads shape depth j a) (hnull : printed j ≠ .null) :
    Reads (optional shape) depth j (some a) := by
  intro o ho
  have hj := h o ho
  unfold Shape.optional
  split
  · rename_i heq
    exact absurd heq hnull
  · rw [hj]
    rfl

theorem items_map (shape : Json.Source → Except Fault α) {f : α → Json} {as : List α}
    (h : ∀ a ∈ as, shape (printed (f a)) = .ok a) :
    items shape (printedItems (as.map f)) = .ok as := by
  induction as with
  | nil => rfl
  | cons a as ih =>
      rw [List.map_cons, Json.printedItems, items, h a List.mem_cons_self,
        ih fun b hb => h b (List.mem_cons_of_mem _ hb)]
      rfl

theorem reads_list {shape : Shape α} {depth : Nat} {f : α → Json} {as : List α}
    (h : ∀ a ∈ as, Reads shape depth (f a) a) :
    Reads (list shape) (depth + 1) (.array (as.map f)) as := by
  intro o ho
  obtain ⟨inner, henter, hinner⟩ := ho.enter
  have hitems := items_map (shape inner) fun a ha => h a ha inner hinner
  simp only [list, printed, henter, Except.bind, hitems]

/-! ### Layouts -/

namespace Layout

variable {l : Layout δ α} {o : Origin} {d d₁ d₂ : δ} {key : String}

/-- Reading entries takes one draft to another. -/
def Takes (l : Layout δ α) (o : Origin) (d : δ) (es : List (String × Json)) (d' : δ) : Prop :=
  l.readEntries o d (printedEntries es) = .ok d'

namespace Takes

theorem nil : l.Takes o d [] d := rfl

theorem append {es fs : List (String × Json)} (h : l.Takes o d es d₁) (h' : l.Takes o d₁ fs d₂) :
    l.Takes o d (es ++ fs) d₂ := by
  -- the draft that the first entries leave is the one that the others begin with
  induction es generalizing d with
  | nil =>
      obtain rfl : d = d₁ := Except.ok.inj h
      exact h'
  | cons e es ih =>
      obtain ⟨k, j⟩ := e
      unfold Takes at h ⊢
      rw [printedEntries, readEntries] at h
      rw [List.cons_append, printedEntries, readEntries]
      cases hread : l.readEntry o d (.text k) j.printed with
      | error e =>
          rw [hread] at h
          cases h
      | ok d' =>
          rw [hread] at h
          exact ih h

/-- An entry is read by its field, which must not have been read before. -/
theorem entry {f : Field δ} {j : Json} (hf : l.field? key = some f) (hset : f.isSet d = false)
    (hread : f.read o (printed j) d = .ok d₁) : l.Takes o d [(key, j)] d₁ := by
  have hentry : l.readEntry o d (.text key) j.printed = .ok d₁ := by
    simp only [readEntry, hf, hset, Bool.false_eq_true, if_false, hread]
  simp only [Takes, printedEntries, readEntries, hentry]

/-- An entry that may be left out. -/
theorem optional {f : Field δ} {json : β → Json} {value : Option β} (hf : l.field? key = some f)
    (hset : f.isSet d = false) (hnone : value = none → d = d₁)
    (hsome : ∀ b, value = some b → f.read o (printed (json b)) d = .ok d₁) :
    l.Takes o d (optionalEntry key json value) d₁ := by
  cases value with
  | none => exact hnone rfl ▸ nil
  | some b => exact entry hf hset (hsome b rfl)

/-- An entry that is left out if its list is empty. -/
theorem list {f : Field δ} {json : β → Json} {items : List β} (hf : l.field? key = some f)
    (hset : f.isSet d = false) (hnil : items = [] → d = d₁)
    (hcons : items ≠ [] → f.read o (printed (.array (items.map json))) d = .ok d₁) :
    l.Takes o d (listEntry key json items) d₁ := by
  cases items with
  | nil => exact hnil rfl ▸ nil
  | cons b bs => exact entry hf hset (hcons (List.cons_ne_nil b bs))

end Takes

/-- **A document whose entries fill the draft is read.** -/
theorem reads {depth : Nat} {es : List (String × Json)} {a : α}
    (h : ∀ o : Origin, o.Allows depth → l.Takes o l.start es d) (hfinish : l.finish d = .ok a) :
    Reads l.shape (depth + 1) (.object es) a := by
  intro o ho
  obtain ⟨inner, henter, hinner⟩ := ho.enter
  have htakes : l.readEntries inner l.start (printedEntries es) = .ok d := h inner hinner
  simp only [shape, printed, henter, Except.bind, ofEntries, htakes, hfinish]

/-- A field of one shape reads what the shape reads. -/
theorem read_of {shape : Shape β} {get : δ → Option β} {set : δ → β → δ} {omissible : Bool}
    {depth : Nat} {j : Json} {b : β} (h : Reads shape depth j b) (ho : o.Allows depth) :
    (Field.of key shape get set omissible).read o (printed j) d = .ok (set d b) := by
  simp only [Field.of, h o ho]
  rfl

end Layout

end Shape

end ManifestRegistry
