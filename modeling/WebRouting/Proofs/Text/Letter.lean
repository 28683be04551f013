import Mathlib.Tactic.SplitIfs

/-! # Letters in both cases

What the codes of ASCII letters are when their case is changed. -/

namespace WebRouting

/-- What the code of a character is after characters of a range have been shifted. -/
theorem toNat_shift (c : Char) (low high shift : UInt32)
    (hvalid : low ≤ c.val ∧ c.val ≤ high → (c.val + shift).isValidChar) :
    (if h : low ≤ c.val ∧ c.val ≤ high then (⟨c.val + shift, hvalid h⟩ : Char) else c).toNat =
      if low.toNat ≤ c.toNat ∧ c.toNat ≤ high.toNat then (c.toNat + shift.toNat) % UInt32.size
      else c.toNat := by
  have hrange : low ≤ c.val ∧ c.val ≤ high ↔ low.toNat ≤ c.toNat ∧ c.toNat ≤ high.toNat :=
    and_congr UInt32.le_iff_toNat_le UInt32.le_iff_toNat_le
  by_cases h : low ≤ c.val ∧ c.val ≤ high
  · rw [dif_pos h, if_pos (hrange.mp h)]
    exact UInt32.toNat_add c.val shift
  · rw [dif_neg h, if_neg (mt hrange.mpr h)]

theorem toNat_toLower (c : Char) : c.toLower.toNat =
    if 65 ≤ c.toNat ∧ c.toNat ≤ 90 then (c.toNat + 32) % UInt32.size else c.toNat := by
  have hcodes : 'A'.val.toNat = 65 ∧ 'Z'.val.toNat = 90 ∧ ('a'.val - 'A'.val).toNat = 32 := by decide
  rw [← hcodes.1, ← hcodes.2.1, ← hcodes.2.2]
  exact toNat_shift c _ _ _ _

theorem toNat_toUpper (c : Char) : c.toUpper.toNat =
    if 97 ≤ c.toNat ∧ c.toNat ≤ 122 then (c.toNat + (UInt32.size - 32)) % UInt32.size
    else c.toNat := by
  have hcodes : 'a'.val.toNat = 97 ∧ 'z'.val.toNat = 122 ∧
      ('A'.val - 'a'.val).toNat = UInt32.size - 32 := by decide
  rw [← hcodes.1, ← hcodes.2.1, ← hcodes.2.2]
  exact toNat_shift c _ _ _ _

end WebRouting
