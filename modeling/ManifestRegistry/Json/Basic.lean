/-
**JSON values.**

Objects keep the order of their entries, since documents are written back in that order; integers
are those of 64 bits, signed or unsigned, and every other number is a double.

Main definitions:

* `Json` — a JSON value;
* `Json.Number`, `Json.Integer` — its numbers;
* `Json.insert` — an entry put into an object: a repeated key keeps its first place and its last
  value;
* `Json.get?` — the value under a key.
-/

import ManifestRegistry.Binary64

set_option relaxedAutoImplicit false
set_option autoImplicit false

namespace ManifestRegistry

namespace Json

/-- An integer that fits 64 bits, with a sign if it is negative and without one otherwise. -/
structure Integer where
  value : Int
  low : -0x8000000000000000 ≤ value := by omega
  high : value ≤ 0xffffffffffffffff := by omega
deriving DecidableEq, Repr

/-- The integer, if it fits. -/
def Integer.ofInt? (i : Int) : Option Integer :=
  if h : -0x8000000000000000 ≤ i ∧ i ≤ 0xffffffffffffffff then some ⟨i, h.1, h.2⟩ else none

/-- A JSON number. -/
inductive Number where
  | integer (i : Integer)
  | float (x : Binary64)
deriving DecidableEq, Repr

end Json

/-- A JSON value. -/
inductive Json where
  | null
  | bool (b : Bool)
  | number (n : Json.Number)
  | text (s : String)
  | array (items : List Json)
  | object (entries : List (String × Json))
deriving Repr, Inhabited

namespace Json

/-- A natural number of 64 bits as a value; larger ones are cut to the largest. -/
def ofNat (n : Nat) : Json :=
  .number (.integer ⟨(min n 0xffffffffffffffff : Nat), by omega, by omega⟩)

/-- A value that may be absent. -/
def ofOption {α : Type} (f : α → Json) : Option α → Json
  | none => .null
  | some a => f a

/-- A list of texts. -/
def ofTexts (ts : List String) : Json := .array (ts.map .text)

/-! ### Objects -/

/-- The entries with `key` bound to `value`: in place if the key is there, else at the end. -/
def insert (key : String) (value : Json) : List (String × Json) → List (String × Json)
  | [] => [(key, value)]
  | (k, v) :: rest => if k = key then (k, value) :: rest else (k, v) :: insert key value rest

/-- The entries of a list inserted one after the other. -/
def ofEntries (entries : List (String × Json)) : List (String × Json) :=
  entries.foldl (fun acc e => insert e.1 e.2 acc) []

@[simp] theorem insert_nil (key : String) (value : Json) :
    insert key value [] = [(key, value)] := rfl

theorem insert_of_not_mem {key : String} {value : Json} {entries : List (String × Json)}
    (h : key ∉ entries.map Prod.fst) : insert key value entries = entries ++ [(key, value)] := by
  induction entries with
  | nil => rfl
  | cons e rest ih =>
    obtain ⟨k, v⟩ := e
    simp only [List.map_cons, List.mem_cons, not_or] at h
    simp [insert, Ne.symm h.1, ih h.2]

/-- The value under a key of an object. -/
def get? (key : String) : Json → Option Json
  | .object entries => entries.lookup key
  | _ => none

end Json

end ManifestRegistry
