/-
**A store whose commits always come too late.**

Main definitions:

* `Storage.Contended` — a list of records, and how often a commit was tried;
* the instance of `Store`.
-/

import ManifestRegistry.Storage.Memory

set_option relaxedAutoImplicit false
set_option autoImplicit false

namespace ManifestRegistry

namespace Storage

/-- A list of records whose commits always lose against another writer. -/
structure Contended where
  inner : Memory := {}
  /-- How often a commit was tried. -/
  commits : Nat := 0

namespace Contended

/-- A commit that loses. -/
def commit (t : Contended) (record : Record) : Reply Record × Contended :=
  (refuse (.conflict (record.name ++ " " ++ record.version ++ " lost a concurrent write")),
    { t with commits := t.commits + 1 })

/-- Something done to the list of records. -/
def lift {α : Type} (f : Memory → α × Memory) (t : Contended) : α × Contended :=
  let (a, inner) := f t.inner
  (a, { t with inner })

instance : Store Contended where
  call c now t :=
    match c with
    | .commit record _ => t.commit record
    | .list filter cursor limit => lift (Store.call (.list filter cursor limit) now) t
    | .getById id => lift (Store.call (.getById id) now) t
    | .getVersion id version => lift (Store.call (.getVersion id version) now) t
    | .create record => lift (Store.call (.create record) now) t
    | .update id record => lift (Store.call (.update id record) now) t
    | .countRecent subject hours => lift (Store.call (.countRecent subject hours) now) t
    | .close => lift (Store.call .close now) t
  size t := Store.size t.inner

end Contended

end Storage

end ManifestRegistry
