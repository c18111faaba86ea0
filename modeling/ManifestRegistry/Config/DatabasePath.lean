/-
**Where the database is.**

A configured path is used as it is.  Else the database is below the directory for the data of
programs: the one that the environment names, if its path is absolute, or the usual one below the
home directory.

Main definitions:

* `DatabasePath.join` — a path below a directory;
* `DatabasePath.default?` — the path when none is configured;
* `DatabasePath.resolve?` — **the path in effect**.
-/

set_option relaxedAutoImplicit false
set_option autoImplicit false

namespace ManifestRegistry

namespace DatabasePath

/-- The path of something below a directory. -/
def join (directory below : String) : String :=
  if directory.isEmpty || directory.toList.getLast? = some '/' then directory ++ below
  else directory ++ "/" ++ below

/-- The directory for the data of programs.  An empty home directory is none. -/
def dataDirectory? (home dataHome : Option String) : Option String :=
  let fallback := (home.filter (· ≠ "")).map fun h => join h ".local/share"
  match dataHome with
  | some d => if d.toList.head? = some '/' then some d else fallback
  | none => fallback

/-- The path when none is configured. -/
def default? (home dataHome : Option String) : Option String :=
  (dataDirectory? home dataHome).map fun d => join (join d "mcp-registry") "mcp-registry.db"

/-- The path in effect. -/
def resolve? (configured home dataHome : Option String) : Option String :=
  configured <|> default? home dataHome

end DatabasePath

end ManifestRegistry
