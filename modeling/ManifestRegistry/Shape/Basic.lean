/-
**Shapes of JSON.**

A shape reads a tree as a value of some type, or says why it cannot; the first fault in document
order counts.  Trees come from a text, from a value, or from a part of a text that was set aside
whole and is read later; the three differ in what they tolerate.

* In a text, containers nest up to a limit, and what no field asks for is only skipped.
* A value has no such limits, and an array with too many items is told by its length.
* What was set aside has been read before, and an empty object may stand for nothing at all.

Main definitions:

* `Shape`, `Shape.Origin` — readers of trees, and where a tree comes from;
* `Shape.string`, `Shape.bool`, `Shape.optional`, `Shape.list`, `Shape.variant`, `Shape.bag` — the
  simple shapes;
* `Shape.decodeText`, `Shape.decodeValue` — **a text or a value read as a shape**.
-/

import ManifestRegistry.Shape.Fault
import ManifestRegistry.Instant.Format
import ManifestRegistry.Uuid

set_option relaxedAutoImplicit false
set_option autoImplicit false

namespace ManifestRegistry

namespace Shape

/-- Where a tree comes from. -/
inductive Origin where
  /-- From a text, with the number of containers that may still be nested. -/
  | text (levels : Nat)
  | value
  /-- From a part of a text or value that was set aside whole. -/
  | aside
deriving DecidableEq, Repr

/-- The origin of the members of a container. -/
def Origin.enter : Origin → Except Fault Origin
  | .text 0 => .error .notJson
  | .text (n + 1) => .ok (.text n)
  | .value => .ok .value
  | .aside => .ok .aside

/-- The nesting allowed to a value that is read whole. -/
def Origin.depth (s : Json.Source) : Origin → Nat
  | .text n => n
  | _ => s.nesting

end Shape

/-- A reader of trees. -/
abbrev Shape (α : Type) := Shape.Origin → Json.Source → Except Fault α

namespace Shape

variable {α : Type}

/-! ### Simple shapes -/

/-- A string. -/
def string : Shape String := fun _ s =>
  match s with
  | .text t => .ok t
  | s => .error (Fault.wrongKind s "a string")

/-- A boolean. -/
def bool : Shape Bool := fun _ s =>
  match s with
  | .bool b => .ok b
  | s => .error (Fault.wrongKind s "a boolean")

/-- A string that a partial function can read. -/
def parsed (parse? : String → Option α) (expected : String) : Shape α := fun _ s =>
  match s with
  | .text t =>
    match parse? t with
    | some a => .ok a
    | none => .error .malformed
  | s => .error (Fault.wrongKind s expected)

/-- An identity. -/
def uuid : Shape Uuid := parsed Uuid.parse? "a formatted UUID string"

/-- An instant. -/
def instant : Shape Instant := parsed Instant.parse? "an RFC 3339 formatted date and time string"

/-- A value or null. -/
def optional (shape : Shape α) : Shape (Option α) := fun o s =>
  match s with
  | .null => .ok none
  | s => (shape o s).map some

/-- Items of one shape, from first to last. -/
def items (shape : Json.Source → Except Fault α) : List Json.Source → Except Fault (List α)
  | [] => .ok []
  | s :: ss =>
    match shape s with
    | .error e => .error e
    | .ok a => (items shape ss).map (a :: ·)

/-- An array of values of one shape. -/
def list (shape : Shape α) : Shape (List α) := fun o s =>
  match s with
  | .array ss => o.enter.bind fun o => items (shape o) ss
  | s => .error (Fault.wrongKind s "a sequence")

/-! ### Names from a list -/

/-- The value of a known name. -/
def named (known : List (String × α)) (s : Json.Source) : Except Fault α :=
  match s with
  | .text name =>
    match known.lookup name with
    | some a => .ok a
    | none => .error (.unknownVariant name (known.map Prod.fst))
  | s => .error (Fault.wrongKind s "variant identifier")

/-- What stands behind a name: nothing. -/
def unit : Shape Unit := fun o s =>
  match s with
  | .null => .ok ()
  | .object [] => if o = .aside then .ok () else .error (Fault.wrongKind s "unit")
  | s => .error (Fault.wrongKind s "unit")

/-- A name from a list: a string, or an object with the name as its only key and nothing behind it.
-/
def variant (known : List (String × α)) : Shape α := fun o s =>
  match o, s with
  | _, .text _ => named known s
  | .text levels, .object ((k, v) :: rest) => do
    let inner ← (Origin.text levels).enter
    let a ← named known k
    unit inner v
    if rest.isEmpty then .ok a else .error .notJson
  | .text _, _ => .error .notJson
  | o, .object [(k, v)] => do
    let a ← named known k
    unit o v
    .ok a
  | _, .object _ => .error .notSingle
  | _, s => .error (Fault.wrongKind s "string or map")

/-! ### Any JSON -/

/-- A tree read as it is. -/
def whole (o : Origin) (s : Json.Source) : Except Fault Json :=
  match s.json? (o.depth s) with
  | some j => .ok j
  | none => .error .notJson

/-- The entries of an object read as they are, put into those already read. -/
def bagEntries (o : Origin) (done : List (String × Json)) :
    List (Json.Source × Json.Source) → Except Fault (List (String × Json))
  | [] => .ok done
  | (.text k, s) :: rest =>
    match whole o s with
    | .ok j => bagEntries o (Json.insert k j done) rest
    | .error e => .error e
  | _ :: _ => .error .notJson

/-- An object with any entries. -/
def bag : Shape (List (String × Json)) := fun o s =>
  match s with
  | .object entries => o.enter.bind fun o => bagEntries o [] entries
  | s => .error (Fault.wrongKind s "a map")

/-! ### Reading -/

/-- A text read as a shape. -/
def decodeText (shape : Shape α) (text : String) : Except Fault α :=
  let d := Json.Document.ofText text
  match shape (.text Json.nestingLimit) d.root with
  | .error e => .error e
  | .ok a => if d.clean then .ok a else .error .notJson

/-- A value read as a shape. -/
def decodeValue (shape : Shape α) (j : Json) : Except Fault α := shape .value (.ofJson j)

end Shape

end ManifestRegistry
