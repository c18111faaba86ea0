/-
**Objects with named fields.**

A layout lists the fields of an object.  The object may also be written as an array of its fields in
their order.  Fields are read as they are met, into a draft; those that are missing are told at the
end, in the order of the layout.

Main definitions:

* `Shape.Field` — a field of a draft;
* `Shape.Layout` — the fields of an object;
* `Shape.Layout.readEntries`, `Shape.Layout.readItems` — the fields from an object or an array;
* `Shape.Layout.shape` — **the shape of such an object**.
-/

import ManifestRegistry.Shape.Basic

set_option relaxedAutoImplicit false
set_option autoImplicit false

namespace ManifestRegistry

namespace Shape

variable {δ α : Type}

/-- A field of a draft. -/
structure Field (δ : Type) where
  key : String
  /-- Whether the draft has the field. -/
  isSet : δ → Bool
  /-- The draft with the field read from a tree. -/
  read : Origin → Json.Source → δ → Except Fault δ
  /-- Whether the field may be left out at the end of an array. -/
  omissible : Bool

/-- A field of one shape. -/
def Field.of (key : String) (shape : Shape α) (get : δ → Option α) (set : δ → α → δ)
    (omissible : Bool) : Field δ where
  key := key
  isSet d := (get d).isSome
  read o s d := (shape o s).map (set d)
  omissible := omissible

/-- The fields of an object. -/
structure Layout (δ α : Type) where
  /-- What the object is called in messages. -/
  title : String
  fields : List (Field δ)
  /-- The draft without any field. -/
  start : δ
  /-- The value of a draft, unless a field is missing. -/
  finish : δ → Except Fault α

/-- A field that must be there. -/
def need (name : String) : Option α → Except Fault α
  | some a => .ok a
  | none => .error (.missingField name)

namespace Layout

variable (l : Layout δ α)

/-- The field under a key. -/
def field? (key : String) : Option (Field δ) := l.fields.find? fun f => f.key = key

/-- One entry of an object.  A field must not be there twice; a key without a field is ignored, but
in a text its value still has to be JSON. -/
def readEntry (o : Origin) (d : δ) (key : Json.Source) (s : Json.Source) : Except Fault δ :=
  match key with
  | .text k =>
    match l.field? k with
    | some f => if f.isSet d then .error (.duplicateField k) else f.read o s d
    | none =>
      match o with
      | .text _ => if s.skippable then .ok d else .error .notJson
      | _ => .ok d
  | .unreadable | .broken | .null | .bool _ | .number _ | .array _ | .object _ => .error .notJson

/-- The entries of an object, from first to last. -/
def readEntries (o : Origin) (d : δ) : List (Json.Source × Json.Source) → Except Fault δ
  | [] => .ok d
  | (k, s) :: rest =>
    match l.readEntry o d k s with
    | .ok d => readEntries o d rest
    | .error e => .error e

/-- What an array with all fields is called in messages. -/
def expectedItems : String := l.title ++ " with " ++ toString l.fields.length ++ " elements"

/-- The items of an array for the fields from `index` on, and the items left over. -/
def readItems (o : Origin) (index : Nat) (d : δ) :
    List (Field δ) → List Json.Source → Except Fault (δ × List Json.Source)
  | [], rest => .ok (d, rest)
  | f :: fs, [] =>
    if f.omissible then readItems o (index + 1) d fs []
    else .error (.length index l.expectedItems)
  | f :: fs, s :: rest =>
    match f.read o s d with
    | .ok d => readItems o (index + 1) d fs rest
    | .error e => .error e

/-- The fault of an array with `total` items, more than there are fields. -/
def surplus (total : Nat) : Origin → Fault
  | .text _ => .notJson
  | .value => .length total "fewer elements in array"
  | .aside => .length total (toString l.fields.length ++ " elements in sequence")

/-- The value of an array of fields. -/
def ofItems (o : Origin) (ss : List Json.Source) : Except Fault α :=
  match l.readItems o 0 l.start l.fields ss with
  | .error e => .error e
  | .ok (d, rest) =>
    match l.finish d with
    | .error e => .error e
    | .ok a => if rest.isEmpty then .ok a else .error (l.surplus ss.length o)

/-- The value of an object's entries. -/
def ofEntries (o : Origin) (es : List (Json.Source × Json.Source)) : Except Fault α :=
  (l.readEntries o l.start es).bind l.finish

/-- The shape of an object with these fields. -/
def shape : Shape α := fun o s =>
  match s with
  | .array ss => o.enter.bind fun o => l.ofItems o ss
  | .object es => o.enter.bind fun o => l.ofEntries o es
  | s => .error (Fault.wrongKind s l.title)

end Layout

end Shape

end ManifestRegistry
