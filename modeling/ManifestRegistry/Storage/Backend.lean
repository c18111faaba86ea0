/-
**The stores there are.**

The list and the table that a registry runs on keep the sequence numbers of their records.

Main definitions:

* `Storage.Backend` — any of the stores;
* the instance of `PacedStore`.
-/

import ManifestRegistry.Storage.Contended
import ManifestRegistry.Storage.Series
import ManifestRegistry.Storage.Slow
import ManifestRegistry.Storage.Table
import ManifestRegistry.Storage.TwoWrite

set_option relaxedAutoImplicit false
set_option autoImplicit false

namespace ManifestRegistry

namespace Storage

/-- Any of the stores. -/
inductive Backend where
  | memory (s : Series)
  | rows (s : Table)
  | twoWrite (s : TwoWrite)
  | contended (s : Contended)
  | slow (s : Slow)

namespace Backend

instance : PacedStore Backend where
  perform c now := fun left backend =>
    match backend with
    | memory s =>
      let (result, s) := (PacedStore.perform c now).run left s
      (result, memory s)
    | rows s =>
      let (result, s) := (PacedStore.perform c now).run left s
      (result, rows s)
    | twoWrite s =>
      let (result, s) := (PacedStore.perform c now).run left s
      (result, twoWrite s)
    | contended s =>
      let (result, s) := (PacedStore.perform c now).run left s
      (result, contended s)
    | slow s =>
      let (result, s) := (PacedStore.perform c now).run left s
      (result, slow s)
  size
    | memory s => PacedStore.size s
    | rows s => PacedStore.size s
    | twoWrite s => PacedStore.size s
    | contended s => PacedStore.size s
    | slow s => PacedStore.size s

end Backend

end Storage

end ManifestRegistry
