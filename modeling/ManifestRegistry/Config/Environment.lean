/-
**Environments and files of settings.**

A file of settings has a line `NAME=value` for each one, with comments, quotes, escapes and
references to other settings.  A value in quotes may run over several lines.  What the environment
already has wins, of two lines for one name the first does, and the file is read up to its first
faulty line.

Main definitions:

* `Environment` — names with values;
* `Environment.LineState` — whether a line goes on at its end;
* `Environment.Value` — the automaton that reads a value;
* `Environment.assignment?` — a line;
* `Environment.load` — **an environment completed from a file**.
-/

import ManifestRegistry.Text.Alphanumeric
import ManifestRegistry.Text.Blank
import ManifestRegistry.Text.Split

set_option relaxedAutoImplicit false
set_option autoImplicit false

namespace ManifestRegistry

/-- Names with values. -/
abbrev Environment := List (String × String)

namespace Environment

/-- The value of a name. -/
def get? (env : Environment) (name : String) : Option String := env.lookup name

/-- The environment with a name set, unless it is set already. -/
def setDefault (env : Environment) (name value : String) : Environment :=
  if (env.get? name).isSome then env else env ++ [(name, value)]

/-! ### Logical lines -/

/-- Whether a line goes on: inside which quotes, after a backslash or after a blank it stands. -/
inductive LineState where
  | plain
  | escape
  | single
  | singleEscape
  | double
  | doubleEscape
  | blank
deriving DecidableEq

namespace LineState

/-- The state after a character; nothing where a comment begins. -/
def next? (s : LineState) (c : Char) : Option LineState :=
  match s with
  | .blank =>
    if c = '#' then none
    else if c = '\x5c' then some .escape
    else if c = '\x22' then some .double
    else if c = '\x27' then some .single
    else some .plain
  | .plain =>
    if Text.isBlank c ∧ c ≠ '\x0a' ∧ c ≠ '\x0d' then some .blank
    else if c = '\x5c' then some .escape
    else if c = '\x22' then some .double
    else if c = '\x27' then some .single
    else some .plain
  | .escape => some .plain
  | .double =>
    if c = '\x5c' then some .doubleEscape else if c = '\x22' then some .plain else some .double
  | .doubleEscape => some .double
  | .single =>
    if c = '\x5c' then some .singleEscape else if c = '\x27' then some .plain else some .single
  | .singleEscape => some .single

/-- The characters of a line up to a comment, and the state at its end; no state after a comment. -/
def scan (s : LineState) : List Char → List Char × Option LineState
  | [] => ([], some s)
  | c :: cs =>
    match s.next? c with
    | none => ([], none)
    | some s' =>
      let (kept, final) := scan s' cs
      (c :: kept, final)

end LineState

/-- The lines of a text, each with its line feed. -/
def physicalLines : List Char → List (List Char)
  | [] => []
  | c :: cs =>
    if c = '\x0a' then [c] :: physicalLines cs
    else
      match physicalLines cs with
      | [] => [[c]]
      | line :: lines => (c :: line) :: lines

/-- A line without its line feed and the carriage return before it. -/
def dropLineEnd (cs : List Char) : List Char :=
  match cs.reverse with
  | '\x0a' :: '\x0d' :: rest => rest.reverse
  | '\x0a' :: rest => rest.reverse
  | _ => cs

/-- Logical lines: physical lines put together until one ends complete.  What is left open at the end
of the text is no line: `none` stands for it. -/
def logicalLines (pending : List Char) (s : LineState) :
    List (List Char) → List (Option (List Char))
  | [] => if s = .plain then [] else [none]
  | line :: lines =>
    let whole := pending ++ line
    if (Text.dropBlanks whole).head? = some '#' then logicalLines [] .plain lines
    else
      match s.scan line with
      | (kept, none) => some (pending ++ kept) :: logicalLines [] .plain lines
      | (_, some .plain) => some (dropLineEnd whole) :: logicalLines [] .plain lines
      | (_, some s') => logicalLines whole s' lines

/-! ### Values -/

/-- What a character of a value belongs to. -/
inductive Inside where
  | plain
  /-- After a backslash, in double quotes or not. -/
  | escape (quoted : Bool)
  | single
  | double
  /-- Behind a dollar sign, in double quotes or not, with the name read so far in reverse. -/
  | reference (quoted : Bool) (name : List Char)
  /-- Behind a dollar sign and a brace. -/
  | braced (quoted : Bool) (name : List Char)
  /-- After a blank that ended the value. -/
  | done
  /-- In a comment behind the value. -/
  | comment

/-- A value while it is read, its characters in reverse. -/
structure Value where
  reversed : List Char := []
  inside : Inside := .plain

namespace Value

/-- One more character. -/
def push (v : Value) (c : Char) (inside : Inside) : Value := ⟨c :: v.reversed, inside⟩

/-- The value of a name put in; a name without one puts in nothing. -/
def refer (env : Environment) (v : Value) (name : List Char) : Value :=
  let value := (env.get? (String.ofList name.reverse)).getD ""
  { v with reversed := value.toList.reverse ++ v.reversed }

/-- Back inside double quotes or outside of them. -/
def back (quoted : Bool) : Inside := if quoted then .double else .plain

/-- One character of a value; nothing where it is faulty. -/
def step (env : Environment) (v : Value) (c : Char) : Option Value :=
  match v.inside with
  | .comment => some v
  | .done =>
    if c = ' ' ∨ c = '\x09' then some v
    else if c = '#' then some { v with inside := .comment }
    else none
  | .escape quoted =>
    if c = '\x5c' ∨ c = '\x27' ∨ c = '\x22' ∨ c = '$' ∨ c = ' ' then some (v.push c (back quoted))
    else if c = 'n' then some (v.push '\x0a' (back quoted))
    else none
  | .single =>
    if c = '\x27' then some { v with inside := .plain } else some (v.push c .single)
  | .reference quoted name =>
    if Text.isLetterOrNumber c then some { v with inside := .reference quoted (c :: name) }
    else if c = '\x7b' ∧ name = [] then some { v with inside := .braced quoted [] }
    else
      let v := v.refer env name
      if c = '$' then some { v with inside := .reference quoted [] }
      else some (v.push c (back quoted))
  | .braced quoted name =>
    if c = '\x7d' then some { v.refer env name with inside := back quoted }
    else some { v with inside := .braced quoted (c :: name) }
  | .double =>
    if c = '$' then some { v with inside := .reference true [] }
    else if c = '\x22' then some { v with inside := .plain }
    else if c = '\x5c' then some { v with inside := .escape true }
    else some (v.push c .double)
  | .plain =>
    if c = '$' then some { v with inside := .reference false [] }
    else if c = '\x27' then some { v with inside := .single }
    else if c = '\x22' then some { v with inside := .double }
    else if c = '\x5c' then some { v with inside := .escape false }
    else if c = ' ' ∨ c = '\x09' then some { v with inside := .done }
    else some (v.push c .plain)

/-- The value once its text has ended; nothing if quotes or braces are open. -/
def finish? (env : Environment) (v : Value) : Option String :=
  match v.inside with
  | .single | .double | .escape true | .braced .. | .reference true _ => none
  | .reference false name => some (String.ofList (v.refer env name).reversed.reverse)
  | _ => some (String.ofList v.reversed.reverse)

end Value

/-- The value of a text; nothing if it is faulty. -/
def value? (env : Environment) (cs : List Char) : Option String :=
  (cs.foldlM (Value.step env) {}).bind (Value.finish? env)

/-! ### Lines -/

/-- Whether a character may begin a name. -/
def beginsName (c : Char) : Bool := c.isAlpha || c = '_'

/-- Whether a character may stand in a name. -/
def inName (c : Char) : Bool := c.isAlphanum || c = '_' || c = '.'

/-- A name and what follows it, without the blanks between. -/
def name? (cs : List Char) : Option (List Char × List Char) :=
  match cs with
  | c :: _ =>
    if beginsName c then some (cs.takeWhile inName, Text.dropBlanks (cs.dropWhile inName)) else none
  | [] => none

/-- What follows an equals sign. -/
def afterEquals? : List Char → Option (List Char)
  | '=' :: cs => some cs
  | _ => none

/-- A name and what follows its equals sign.  The word `export` in front of a name is left out; before
an equals sign it is a name itself. -/
def assignment? (cs : List Char) : Option (List Char × List Char) := do
  let (name, rest) ← name? cs
  match afterEquals? rest with
  | some value => some (name, value)
  | none =>
    if name = ['e', 'x', 'p', 'o', 'r', 't'] then
      (name? rest).bind fun (name, rest) => (afterEquals? rest).map fun value => (name, value)
    else none

/-- The name and the value of a line that is neither empty nor a comment. -/
def binding? (env : Environment) (cs : List Char) : Option (String × String) :=
  (assignment? cs).bind fun (name, rest) =>
    let rest := Text.dropBlanks rest
    let value := if rest.head? = none ∨ rest.head? = some '#' then some "" else value? env rest
    value.map fun v => (String.ofList name, v)

/-- The environment after a line: unchanged by an empty line or a comment; nothing if it is faulty.
-/
def afterLine? (env : Environment) (line : List Char) : Option Environment :=
  let cs := Text.trimChars line
  if cs.head? = none ∨ cs.head? = some '#' then some env
  else (binding? env cs).map fun (name, value) => env.setDefault name value

/-- The environment after logical lines, up to the first faulty one. -/
def afterLines (env : Environment) : List (Option (List Char)) → Environment
  | some line :: lines =>
    match afterLine? env line with
    | some env' => afterLines env' lines
    | none => env
  | _ => env

/-- A text without the byte order mark in front. -/
def dropMark : List Char → List Char
  | '\ufeff' :: cs => cs
  | cs => cs

/-- An environment completed from the text of a file. -/
def load (env : Environment) (text : String) : Environment :=
  afterLines env (logicalLines [] .plain (physicalLines (dropMark text.toList)))

end Environment

end ManifestRegistry
