/-
**What is fixed about a version when it is published.**

A stored version may be demoted and edited, but its name, its version string, its identity, the time
of its publication and who published it stay what they were.  These make up its imprint.  A copy of
a record that was read some time ago may be out of date in everything else, but its imprint is still
that of a stored record: the imprints of a store only ever grow in number.

Main definitions:

* `Imprint`, `Record.imprint` — what is fixed about a version;
* `Imprint.AtLeast` — one version is at least as high as another;
* `Distinct` — **names have identities of their own and no version twice**.

Main results:

* `Distinct.eq_of_id_version` — identity and version string tell the place of a record;
* `Distinct.append` — a new version of a name that has its identity keeps imprints distinct.
-/

import ManifestRegistry.Proofs.Version.Preorder
import ManifestRegistry.Record.Basic

set_option relaxedAutoImplicit false
set_option autoImplicit false

namespace ManifestRegistry

/-- What is fixed about a version when it is published. -/
structure Imprint where
  name : String
  version : String
  id : Uuid
  publishedAt : Instant
  releaseDate : Option Instant
  publishedBy : Option String
deriving DecidableEq

/-- What is fixed about a stored version. -/
def Record.imprint (r : Record) : Imprint where
  name := r.name
  version := r.version
  id := r.id
  publishedAt := r.publishedAt
  releaseDate := r.registration.releaseDate
  publishedBy := r.publishedBy

namespace Record

@[simp] theorem name_imprint (r : Record) : r.imprint.name = r.name := rfl

@[simp] theorem version_imprint (r : Record) : r.imprint.version = r.version := rfl

@[simp] theorem id_imprint (r : Record) : r.imprint.id = r.id := rfl

@[simp] theorem publishedAt_imprint (r : Record) : r.imprint.publishedAt = r.publishedAt := rfl

@[simp] theorem imprint_demoted (r : Record) (now : Instant) :
    (r.demoted now).imprint = r.imprint := rfl

theorem isVersion_iff {r : Record} {id : Uuid} {version : String} :
    r.isVersion id version = true ↔ r.id = id ∧ r.version = version := by
  simp [isVersion]

end Record

namespace Imprint

/-- One version is at least as high as another in the order of published versions. -/
def AtLeast (a b : Imprint) : Prop :=
  (Version.order a.version a.publishedAt b.version b.publishedAt).isGE

theorem AtLeast.refl (a : Imprint) : a.AtLeast a := Version.order_self_isGE _ _

theorem AtLeast.trans {a b c : Imprint} (hab : a.AtLeast b) (hbc : b.AtLeast c) : a.AtLeast c :=
  Version.order_trans hab hbc

end Imprint

/-! ### Distinct imprints -/

/-- Names have identities of their own, and no name has a version twice. -/
structure Distinct (ms : List Imprint) : Prop where
  /-- Two places with one name and version are one place. -/
  versions : ∀ {i j : Nat} {a b : Imprint}, ms[i]? = some a → ms[j]? = some b → a.name = b.name →
    a.version = b.version → i = j
  /-- A name goes with one identity and an identity with one name. -/
  identity : ∀ a ∈ ms, ∀ b ∈ ms, a.name = b.name ↔ a.id = b.id

theorem getElem?_append_singleton {α : Type} {as : List α} {a b : α} {i : Nat}
    (h : (as ++ [a])[i]? = some b) : as[i]? = some b ∨ i = as.length ∧ b = a := by
  rw [List.getElem?_append] at h
  split at h
  · exact .inl h
  · rename_i hge
    obtain ⟨hlt, hb⟩ := List.getElem?_eq_some_iff.1 h
    rw [List.length_singleton] at hlt
    refine .inr ⟨by omega, ?_⟩
    rw [← hb, List.getElem_singleton]

namespace Distinct

variable {ms : List Imprint}

theorem nil : Distinct [] where
  versions h := by simp at h
  identity _ h := by simp at h

/-- Identity and version string tell the place of a version. -/
theorem eq_of_id_version (h : Distinct ms) {i j : Nat} {a b : Imprint} (ha : ms[i]? = some a)
    (hb : ms[j]? = some b) (hid : a.id = b.id) (hv : a.version = b.version) : i = j :=
  h.versions ha hb ((h.identity a (List.mem_of_getElem? ha) b (List.mem_of_getElem? hb)).2 hid) hv

/-- One more version keeps imprints distinct if its name does not have it yet and goes with its
identity. -/
theorem append (h : Distinct ms) {m : Imprint}
    (hv : ∀ a ∈ ms, a.name = m.name → a.version ≠ m.version)
    (hid : ∀ a ∈ ms, a.name = m.name ↔ a.id = m.id) : Distinct (ms ++ [m]) where
  versions := by
    intro i j a b ha hb hn hver
    rcases getElem?_append_singleton ha with hold | ⟨hi, rfl⟩
    · rcases getElem?_append_singleton hb with hold' | ⟨-, rfl⟩
      · exact h.versions hold hold' hn hver
      · exact absurd hver (hv a (List.mem_of_getElem? hold) hn)
    · rcases getElem?_append_singleton hb with hold' | ⟨hj, -⟩
      · exact absurd hver.symm (hv b (List.mem_of_getElem? hold') hn.symm)
      · rw [hi, hj]
  identity := by
    intro a ha b hb
    rcases List.mem_append.1 ha with ha | ha <;> rcases List.mem_append.1 hb with hb | hb
    · exact h.identity a ha b hb
    · rw [List.mem_singleton.1 hb]
      exact hid a ha
    · rw [List.mem_singleton.1 ha]
      exact ⟨fun e => ((hid b hb).1 e.symm).symm, fun e => ((hid b hb).2 e.symm).symm⟩
    · rw [List.mem_singleton.1 ha, List.mem_singleton.1 hb]
      exact iff_of_true rfl rfl

end Distinct

theorem map_imprint_set {rs : List Record} {i : Nat} {p : Record}
    (h : ∀ r, rs[i]? = some r → r.imprint = p.imprint) :
    (rs.set i p).map Record.imprint = rs.map Record.imprint := by
  refine List.ext_getElem? ?_
  intro j
  rw [List.getElem?_map, List.getElem?_map, List.getElem?_set]
  split
  · rename_i hij
    subst hij
    split
    · rename_i hlt
      rw [List.getElem?_eq_getElem hlt, Option.map_some, Option.map_some,
        h _ (List.getElem?_eq_getElem hlt)]
    · rename_i hge
      rw [List.getElem?_eq_none (by omega)]
  · rfl

end ManifestRegistry
