/-
**JSON text as a tree that may be broken.**

A reader that wants a certain shape meets the errors of a text in document order: a value of the
wrong kind may come before the place where the text stops being JSON, and hides it.  So the text is
first turned into a tree in which such places are leaves, and the readers of shapes walk the tree.

Main definitions:

* `Json.Source` — a JSON text as a tree with broken places;
* `Json.Document` — a tree and whether anything but blanks follows it;
* `Json.Builder` — puts tokens together, with a stack of open containers;
* `Json.Document.ofText` — **the tree of a text**;
* `Json.Source.ofJson`, `Json.Source.json?` — values as trees and back;
* `Json.Source.nesting` — how many containers are nested in a tree;
* `Json.Source.get?` — the value under a key, whatever stands beside it;
* `Json.Source.skippable` — whether a reader that ignores the value accepts it;
* `Json.read?` — the value of a text.
-/

import ManifestRegistry.Json.Token

set_option relaxedAutoImplicit false
set_option autoImplicit false

namespace ManifestRegistry

namespace Json

/-- A JSON text as a tree.  Keys are nodes too, since a text may have any value in their place. -/
inductive Source where
  | null
  | bool (b : Bool)
  | number (n : Number)
  | text (s : String)
  | array (items : List Source)
  | object (entries : List (Source × Source))
  /-- A number out of range or half of a surrogate pair: an error unless the value is ignored. -/
  | unreadable
  /-- The text is not JSON from here on. -/
  | broken
deriving Repr, Inhabited

/-- The tree of a text, and whether only blanks follow it. -/
structure Document where
  root : Source
  clean : Bool

/-! ### From tokens to a tree -/

/-- An open container: its members in reverse and, in an object, the key whose value is due. -/
inductive Frame where
  | array (reversed : List Source)
  | object (reversed : List (Source × Source)) (key : Option Source)

/-- What may come next. -/
inductive Want where
  | value
  /-- A value, or the end of the array that has just begun. -/
  | valueOrClose
  /-- A comma or the end of the innermost container. -/
  | separator
  | key
  /-- A key, or the end of the object that has just begun. -/
  | keyOrClose
  | colon
deriving DecidableEq

/-- A tree under construction. -/
inductive Builder where
  | running (frames : List Frame) (want : Want)
  | complete (root : Source)
  | ended (d : Document)

namespace Builder

/-- The tree when nothing more can be read: `s` stands at the place where the text broke, and every
open container ends there. -/
def collapse : List Frame → Source → Source
  | [], s => s
  | .array rs :: fs, s => collapse fs (.array (s :: rs).reverse)
  | .object rs none :: fs, s => collapse fs (.object ((s, .broken) :: rs).reverse)
  | .object rs (some k) :: fs, s => collapse fs (.object ((k, s) :: rs).reverse)

/-- The text broke inside the open containers `frames`. -/
def stop (frames : List Frame) : Builder := .ended ⟨collapse frames .broken, false⟩

/-- A value has been read. -/
def put : List Frame → Source → Builder
  | [], s => .complete s
  | .array rs :: fs, s => .running (.array (s :: rs) :: fs) .separator
  | .object rs (some k) :: fs, s => .running (.object ((k, s) :: rs) none :: fs) .separator
  | .object rs none :: fs, _ => stop (.object rs none :: fs)

/-- The node of a token that is a value by itself. -/
def leaf? : Token → Option Source
  | .null => some .null
  | .bool b => some (.bool b)
  | .number (some n) => some (.number n)
  | .text (some s) => some (.text s)
  | .number none | .text none => some .unreadable
  | _ => none

/-- A token where a value is due. -/
def stepValue (frames : List Frame) (t : Token) : Builder :=
  match t with
  | .openArray => .running (.array [] :: frames) .valueOrClose
  | .openObject => .running (.object [] none :: frames) .keyOrClose
  | t =>
    match leaf? t with
    | some s => put frames s
    | none => stop frames

/-- A token in place of a key that is no string: the node tells what it was, its value is broken. -/
def badKey (t : Token) : Source :=
  match t with
  | .openArray => .array [.broken]
  | .openObject => .object [(.broken, .broken)]
  | t => (leaf? t).getD .broken

/-- A token where a key is due. -/
def stepKey (frames : List Frame) (t : Token) : Builder :=
  match frames with
  | .object rs none :: fs =>
    match t with
    | .text (some s) => .running (.object rs (some (.text s)) :: fs) .colon
    | .text none => .running (.object rs (some .unreadable) :: fs) .colon
    | t => stop (.object rs (some (badKey t)) :: fs)
  | fs => stop fs

/-- The innermost container ends. -/
def close (frames : List Frame) (t : Token) : Builder :=
  match frames, t with
  | .array rs :: fs, .closeArray => put fs (.array rs.reverse)
  | .object rs none :: fs, .closeObject => put fs (.object rs.reverse)
  | fs, _ => stop fs

/-- One token. -/
def step (b : Builder) (t : Token) : Builder :=
  match b with
  | .running frames .value => stepValue frames t
  | .running frames .valueOrClose =>
    match t with
    | .closeArray => close frames t
    | t => stepValue frames t
  | .running frames .separator =>
    match frames, t with
    | .array _ :: _, .comma => .running frames .value
    | .object .. :: _, .comma => .running frames .key
    | frames, t => close frames t
  | .running frames .key => stepKey frames t
  | .running frames .keyOrClose =>
    match t with
    | .closeObject => close frames t
    | t => stepKey frames t
  | .running frames .colon =>
    match t with
    | .colon => .running frames .value
    | _ => stop frames
  | .complete root => .ended ⟨root, false⟩
  | .ended d => .ended d

/-- The document once the tokens have ended. -/
def finish : Builder → Document
  | .running frames _ => ⟨collapse frames .broken, false⟩
  | .complete root => ⟨root, true⟩
  | .ended d => d

end Builder

/-- The tree of a list of tokens. -/
def Document.ofTokens (ts : List Token) : Document :=
  (ts.foldl Builder.step (.running [] .value)).finish

/-- The tree of a text. -/
def Document.ofText (s : String) : Document := .ofTokens (tokens s.toList)

namespace Source

/-! ### Values as trees -/

mutual

/-- A value as a tree. -/
def ofJson : Json → Source
  | .null => .null
  | .bool b => .bool b
  | .number n => .number n
  | .text s => .text s
  | .array items => .array (ofItems items)
  | .object entries => .object (ofEntries entries)

/-- The items of an array as trees. -/
def ofItems : List Json → List Source
  | [] => []
  | j :: js => ofJson j :: ofItems js

/-- The entries of an object as trees. -/
def ofEntries : List (String × Json) → List (Source × Source)
  | [] => []
  | (k, j) :: es => (.text k, ofJson j) :: ofEntries es

end

mutual

/-- The value of a tree in which at most `depth` containers are nested; nothing if it is broken or
nested deeper.  A repeated key keeps its first place and its last value. -/
def json? (depth : Nat) : Source → Option Json
  | .null => some .null
  | .bool b => some (.bool b)
  | .number n => some (.number n)
  | .text s => some (.text s)
  | .array items =>
    match depth with
    | 0 => none
    | d + 1 => (items? d items).map .array
  | .object entries =>
    match depth with
    | 0 => none
    | d + 1 => (entries? d [] entries).map .object
  | .unreadable => none
  | .broken => none

/-- The values of the items of an array. -/
def items? (depth : Nat) : List Source → Option (List Json)
  | [] => some []
  | s :: ss =>
    match json? depth s with
    | none => none
    | some j => (items? depth ss).map (j :: ·)

/-- The entries of an object, put into those already read. -/
def entries? (depth : Nat) (done : List (String × Json)) :
    List (Source × Source) → Option (List (String × Json))
  | [] => some done
  | (.text k, s) :: ss =>
    match json? depth s with
    | none => none
    | some j => entries? depth (insert k j done) ss
  | _ :: _ => none

end

mutual

/-- How many containers are nested in a tree. -/
def nesting : Source → Nat
  | .array items => nestingItems items + 1
  | .object entries => nestingEntries entries + 1
  | _ => 0

/-- How many containers are nested in items. -/
def nestingItems : List Source → Nat
  | [] => 0
  | s :: ss => max (nesting s) (nestingItems ss)

/-- How many containers are nested in entries. -/
def nestingEntries : List (Source × Source) → Nat
  | [] => 0
  | (_, s) :: ss => max (nesting s) (nestingEntries ss)

end

/-- Whether a node is a given text. -/
def isText (s : String) : Source → Bool
  | .text t => t = s
  | _ => false

/-- The value under a key of an object, the first one if the key is repeated. -/
def get? (key : String) : Source → Option Source
  | .object entries => (entries.find? fun e => e.1.isText key).map Prod.snd
  | _ => none

mutual

/-- Whether the tree is JSON throughout, however deep, whatever its numbers and surrogates. -/
def skippable : Source → Bool
  | .array items => skippableItems items
  | .object entries => skippableEntries entries
  | .broken => false
  | _ => true

/-- Whether all items are JSON throughout. -/
def skippableItems : List Source → Bool
  | [] => true
  | s :: ss => skippable s && skippableItems ss

/-- Whether all entries have string keys and are JSON throughout. -/
def skippableEntries : List (Source × Source) → Bool
  | [] => true
  | (.text _, s) :: ss => skippable s && skippableEntries ss
  | (.unreadable, s) :: ss => skippable s && skippableEntries ss
  | _ :: _ => false

end

end Source

/-- How many containers may be nested in a text. -/
def nestingLimit : Nat := 127

/-- The value of a text, if all of it is JSON that nests within so many levels. -/
def read? (s : String) (levels : Nat := nestingLimit) : Option Json :=
  let d := Document.ofText s
  if d.clean then d.root.json? levels else none

end Json

end ManifestRegistry
