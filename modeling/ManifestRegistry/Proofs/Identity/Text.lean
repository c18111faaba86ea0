/-
**Identities read back.**

Main results:

* `Uuid.parse?_text` — **the canonical form of an identity is read as the identity**.
-/

import ManifestRegistry.Uuid
import Mathlib.Algebra.Group.Nat.Defs

set_option relaxedAutoImplicit false
set_option autoImplicit false

namespace ManifestRegistry

namespace Uuid

theorem length_hexGroup (value start count : Nat) :
    (hexGroup value start count).length = count := by
  simp [hexGroup]

/-- The lowest digits begin with the highest of them. -/
theorem hexGroup_succ (value count : Nat) :
    hexGroup value (count + 1) (count + 1) =
      Text.hexDigit (value / 16 ^ count % 16) :: hexGroup value count count := by
  have hplace : ∀ i, count + 1 - 1 - (i + 1) = count - 1 - i := by omega
  simp only [hexGroup, List.range_succ_eq_map, List.map_cons, List.map_map, Function.comp_def,
    Nat.succ_eq_add_one, hplace]
  rfl

/-- The lowest digits of a number, put behind another. -/
theorem hexValueFrom?_hexGroup (value count n : Nat) :
    hexValueFrom? n (hexGroup value count count) = some (n * 16 ^ count + value % 16 ^ count) := by
  -- the first digit goes into the value read so far
  induction count generalizing n with
  | zero => simp [hexGroup, hexValueFrom?, Nat.mod_one]
  | succ count ih =>
      have hdigit : Text.hexValue? (Text.hexDigit (value / 16 ^ count % 16)) =
          some (value / 16 ^ count % 16) := Text.hexValue?_hexDigit (Nat.mod_lt _ (by omega))
      rw [hexGroup_succ, hexValueFrom?, hdigit]
      simp only [ih, Option.some.injEq]
      rw [Nat.mod_pow_succ, Nat.pow_succ]
      generalize 16 ^ count = p
      generalize value / p % 16 = d
      generalize value % p = r
      rw [Nat.add_mul, Nat.mul_comm p 16, ← Nat.mul_assoc, Nat.mul_comm n 16, Nat.mul_comm p d]
      omega

theorem dropHyphens?_chars (u : Uuid) :
    dropHyphens? u.chars = some (hexGroup u.value.toNat 32 32) := rfl

/-- **The canonical form of an identity is read as the identity.** -/
theorem parse?_text (u : Uuid) : parse? u.text = some u := by
  have hlen : u.chars.length = 36 := rfl
  have hlt : u.value.toNat < 16 ^ 32 := Nat.lt_of_lt_of_le u.value.isLt (by decide)
  have hdigits : ofDigits? (hexGroup u.value.toNat 32 32) = some u := by
    rw [ofDigits?, if_pos (length_hexGroup _ _ _), hexValueFrom?_hexGroup, Nat.zero_mul,
      Nat.zero_add, Nat.mod_eq_of_lt hlt, Option.map_some, BitVec.ofNat_toNat, BitVec.setWidth_eq]
  rw [parse?, text, String.toList_ofList, parseChars?]
  simp only [hlen, dropHyphens?_chars, Option.bind_some, hdigits]
  rfl

end Uuid

end ManifestRegistry
