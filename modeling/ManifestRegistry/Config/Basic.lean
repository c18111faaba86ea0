/-
**Settings.**

Every setting has a default, so an empty environment yields a working registry.  A value is read
without the blanks around it and an empty one counts as absent.

Main definitions:

* `Config` — the settings;
* `Config.pageSize` — the effective size of a requested page;
* `Config.ofLookup` — **settings from named values**;
* `Config.Invalid` — the first value that cannot be read.
-/

import ManifestRegistry.Text.Blank
import ManifestRegistry.Text.Decimal

set_option relaxedAutoImplicit false
set_option autoImplicit false

namespace ManifestRegistry

/-- The settings of a registry. -/
structure Config where
  /-- Publishes of one subject in 24 hours; zero disables publishing, a negative number lifts the
  limit. -/
  dailyQuota : Int := 10
  /-- Versions of one server. -/
  maxVersions : Nat := 10000
  /-- The deadline of a storage call, in milliseconds. -/
  timeoutMs : Nat := 5000
  /-- Bytes of the JSON text of a publisher's bag. -/
  maxBagBytes : Nat := 4096
  /-- The size of a page when none is asked for. -/
  defaultPage : Nat := 30
  /-- The size of the largest page. -/
  maxPage : Nat := 100
  databasePath : Option String := none
deriving DecidableEq, Repr, Inhabited

namespace Config

/-- Whether only admins may publish. -/
def publishingDisabled (c : Config) : Bool := c.dailyQuota = 0

/-- The effective size of a requested page: zero asks for the default, and no page is larger than the
largest or smaller than one. -/
def pageSize (c : Config) (requested : Nat) : Nat :=
  let largest := max c.maxPage 1
  if requested = 0 then min (max c.defaultPage 1) largest else min requested largest

theorem pageSize_pos (c : Config) (requested : Nat) : 0 < c.pageSize requested := by
  simp only [pageSize]
  split <;> omega

theorem pageSize_le (c : Config) (requested : Nat) : c.pageSize requested ≤ max c.maxPage 1 := by
  simp only [pageSize]
  split <;> omega

/-! ### Names of the settings -/

/-- The name of the daily quota. -/
def quotaKey : String := "MCP_REGISTRY_RATE_LIMIT_PER_DAY"

/-- The name of the version ceiling. -/
def maxVersionsKey : String := "MCP_REGISTRY_MAX_VERSIONS_PER_SERVER"

/-- The name of the deadline. -/
def timeoutKey : String := "MCP_REGISTRY_STORAGE_TIMEOUT_MS"

/-- The name of the cap on bags. -/
def maxBagBytesKey : String := "MCP_REGISTRY_MAX_PUBLISHER_EXTENSIONS_BYTES"

/-- The name of the default page size. -/
def defaultPageKey : String := "MCP_REGISTRY_DEFAULT_PAGE_SIZE"

/-- The name of the largest page size. -/
def maxPageKey : String := "MCP_REGISTRY_MAX_PAGE_SIZE"

/-- The name of the database's path. -/
def databasePathKey : String := "MCP_REGISTRY_DATABASE_PATH"

/-! ### Reading -/

/-- A setting whose value cannot be read. -/
structure Invalid where
  key : String
  value : String
deriving DecidableEq, Repr

/-- The wording of a value that cannot be read. -/
def Invalid.message (e : Invalid) : String := "Invalid value for " ++ e.key ++ ": '" ++ e.value ++ "'"

/-- The setting under a name: its default if there is no value or an empty one. -/
def setting {α : Type} (read : List Char → Option α) (lookup : String → Option String)
    (key : String) (default : α) : Except Invalid α :=
  match lookup key with
  | none => .ok default
  | some value =>
    if Text.isAllBlank value then .ok default
    else
      match read (Text.trimChars value.toList) with
      | some a => .ok a
      | none => .error ⟨key, value⟩

/-- The largest number of a setting without a sign. -/
def naturalLimit : Nat := 0xffffffffffffffff

/-- Settings from named values; the first value that cannot be read is reported, the deadline
first. -/
def ofLookup (lookup : String → Option String) : Except Invalid Config := do
  let base : Config := {}
  let natural := setting (Text.natural? naturalLimit) lookup
  let timeoutMs ← natural timeoutKey base.timeoutMs
  let dailyQuota ← setting Text.integer? lookup quotaKey base.dailyQuota
  let maxVersions ← natural maxVersionsKey base.maxVersions
  let maxBagBytes ← natural maxBagBytesKey base.maxBagBytes
  let defaultPage ← natural defaultPageKey base.defaultPage
  let maxPage ← natural maxPageKey base.maxPage
  let databasePath := (lookup databasePathKey).filter fun v => !Text.isAllBlank v
  return { dailyQuota, maxVersions, timeoutMs, maxBagBytes, defaultPage, maxPage, databasePath }

end Config

end ManifestRegistry
