/-
**Specific versions.**

A published version names one version, not a range of them, and is not the word `latest`.

Main definitions:

* `Version.looksLikeRange` — marks of a range, a blank, or a part that is the letter `x`;
* `Version.flaw?` — **why a version string cannot be published**, if it cannot.
-/

import ManifestRegistry.Text.Split

set_option relaxedAutoImplicit false
set_option autoImplicit false

namespace ManifestRegistry

namespace Version

/-- Characters that only ranges have. -/
def isRangeMark (c : Char) : Bool :=
  c = '^' || c = '~' || c = '>' || c = '<' || c = '*' || c = ' '

/-- Whether a version string looks like a range of versions. -/
def looksLikeRange (cs : List Char) : Bool :=
  cs.any isRangeMark || Text.contains ['|', '|'] cs ||
    (Text.splitAll '.' cs).any fun part => Text.sameFolded part ['x']

/-- Why a version string cannot be published, if it cannot. -/
def flaw? (raw : String) : Option String :=
  if Text.sameFolded raw.toList "latest".toList then some "version 'latest' is reserved"
  else if looksLikeRange raw.toList then
    some ("version '" ++ raw ++ "' looks like a range; publish a specific version")
  else none

end Version

end ManifestRegistry
