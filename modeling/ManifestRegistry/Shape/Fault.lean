/-
**Why JSON does not have the shape that is wanted.**

Main definitions:

* `Fault` — the causes;
* `Fault.message` — their wording, for those that have one of their own;
* `Fault.wrongKind` — the cause for a value of the wrong kind.
-/

import ManifestRegistry.Json.Printer
import ManifestRegistry.Json.Source
import ManifestRegistry.Text.Quoted

set_option relaxedAutoImplicit false
set_option autoImplicit false

namespace ManifestRegistry

/-- Why JSON does not have the shape that is wanted. -/
inductive Fault where
  /-- The text is not JSON, nests too deep or holds a number out of range. -/
  | notJson
  /-- A value of another kind than the one expected. -/
  | kind (found : String) (expected : String)
  /-- An array with another number of items than the one expected. -/
  | length (found : Nat) (expected : String)
  | missingField (name : String)
  | duplicateField (name : String)
  /-- A name that is not among the known ones. -/
  | unknownVariant (name : String) (known : List String)
  /-- An object that should have had a single entry. -/
  | notSingle
  /-- An identity or an instant that cannot be read. -/
  | malformed
deriving DecidableEq, Repr

namespace Fault

/-- A name as it stands in a message. -/
def ticked (name : String) : String := "`" ++ name ++ "`"

/-- The wording of a cause; those that are told by their kind alone have none. -/
def message : Fault → Option String
  | .notJson | .notSingle | .malformed => none
  | .kind found expected => some ("invalid type: " ++ found ++ ", expected " ++ expected)
  | .length found expected =>
    some ("invalid length " ++ toString found ++ ", expected " ++ expected)
  | .missingField name => some ("missing field " ++ ticked name)
  | .duplicateField name => some ("duplicate field " ++ ticked name)
  | .unknownVariant name known =>
    some ("unknown variant " ++ ticked name ++ ", expected one of " ++
      String.intercalate ", " (known.map ticked))

/-- A value as it stands in a message; none if it cannot be read at all. -/
def describe : Json.Source → Option String
  | .null => some "null"
  | .bool b => some ("boolean " ++ ticked (if b then "true" else "false"))
  | .number (.integer i) => some ("integer " ++ ticked (String.ofList (Json.intChars i.value)))
  | .number (.float x) => some ("floating point " ++ ticked (String.ofList (Json.floatChars x)))
  | .text s => some ("string " ++ Text.quoted s)
  | .array _ => some "sequence"
  | .object _ => some "map"
  | .unreadable | .broken => none

/-- The cause for a value of the wrong kind. -/
def wrongKind (s : Json.Source) (expected : String) : Fault :=
  match describe s with
  | some found => .kind found expected
  | none => .notJson

end Fault

end ManifestRegistry
