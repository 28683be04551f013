import WebRouting.Proofs.Text.Letter
import WebRouting.Proofs.Unicode.Case
import WebRouting.Regex.Size

/-! # Members of classes

The ranges by which the size of a class is measured are those of its members
(`CharClass.covers_ranges`). -/

namespace WebRouting.CharClass

open Unicode

theorem toNat_le_lastCode (c : Char) : c.toNat ≤ Ranges.lastCode := by
  have hvalid := c.valid
  simp only [UInt32.isValidChar, Nat.isValidChar] at hvalid
  simp only [Ranges.lastCode, Char.toNat]
  omega

theorem toNat_swapAsciiCase (c : Char) : (swapAsciiCase c).toNat =
    if 65 ≤ c.toNat ∧ c.toNat ≤ 90 then c.toNat + 32
    else if 97 ≤ c.toNat ∧ c.toNat ≤ 122 then c.toNat - 32
    else c.toNat := by
  have hupper : c.isUpper = true ↔ 65 ≤ c.toNat ∧ c.toNat ≤ 90 :=
    decide_eq_true_iff.trans (and_congr UInt32.le_iff_toNat_le UInt32.le_iff_toNat_le)
  rw [swapAsciiCase]
  simp only [hupper]
  split
  · next h => rw [toNat_toLower, if_pos h, Nat.mod_eq_of_lt (by rw [UInt32.size]; omega)]
  · rw [toNat_toUpper]
    split
    · rw [UInt32.size]
      omega
    · rfl

theorem isFolding_asciiFoldRuns : IsFolding asciiFoldRuns := by decide

theorem moves_asciiFoldRuns_iff {x y : Nat} :
    Moves asciiFoldRuns x y ↔ 65 ≤ x ∧ x ≤ 90 ∧ y = x + 32 := by
  simp only [Moves, asciiFoldRuns, List.mem_singleton, exists_eq_left, CaseRun.covers_iff]
  omega

/-- Among ASCII letters, those that differ from a character in case only are at most one. -/
theorem covers_closure_asciiFoldRuns (codes : Ranges) (c : Char) :
    (closure asciiFoldRuns codes).covers c.toNat =
      (codes.covers c.toNat || codes.covers (swapAsciiCase c).toNat) := by
  rw [Bool.eq_iff_iff, covers_closure_iff isFolding_asciiFoldRuns, Bool.or_eq_true,
    toNat_swapAsciiCase]
  have hcases := moved_cases isFolding_asciiFoldRuns c.toNat
  simp only [moves_asciiFoldRuns_iff] at hcases ⊢
  obtain ⟨hlow, hhigh, hmoved⟩ | ⟨hmoved, hstays⟩ := hcases
  -- a capital letter is moved to the small one
  · rw [if_pos ⟨hlow, hhigh⟩, hmoved]
    constructor
    · rintro (hc | hc | ⟨x, hx, hxc⟩)
      · exact .inl hc
      · exact .inr hc
      · obtain rfl : x = c.toNat := by omega
        exact .inl hx
    · exact Or.imp_right .inl
  · rw [if_neg fun hupper => hstays _ ⟨hupper.1, hupper.2, rfl⟩, hmoved]
    split
    · constructor
      · rintro (hc | hc | ⟨x, hx, hxc⟩)
        · exact .inl hc
        · exact .inl hc
        · obtain rfl : x = c.toNat - 32 := by omega
          exact .inr hx
      · rintro (hc | hx)
        · exact .inl hc
        · exact .inr (.inr ⟨_, hx, by omega⟩)
    · constructor
      · rintro (hc | hc | ⟨x, -, hxc⟩)
        · exact .inl hc
        · exact .inl hc
        · omega
      · exact Or.imp_right .inl

/-- The ranges of a class cover its characters. -/
theorem covers_ranges (a : CharClass) (c : Char) : a.ranges.covers c.toNat = a.contains c := by
  have hlast := toNat_le_lastCode c
  induction a generalizing c with
  | range first last =>
    rw [ranges, Ranges.covers_cons, Ranges.covers_nil, Bool.or_false]
    rfl
  | property p => rw [ranges, Ranges.covers_diff _ _ hlast]; rfl
  | union a b iha ihb => rw [ranges, Ranges.covers_append, iha c hlast, ihb c hlast]; rfl
  | inter a b iha ihb => rw [ranges, Ranges.covers_inter _ _ hlast, iha c hlast, ihb c hlast]; rfl
  | diff a b iha ihb => rw [ranges, Ranges.covers_diff _ _ hlast, iha c hlast, ihb c hlast]; rfl
  | symmDiff a b iha ihb =>
    rw [ranges, Ranges.covers_symmDiff _ _ hlast, iha c hlast, ihb c hlast]
    rfl
  | compl a ih => rw [ranges, Ranges.covers_compl _ hlast, ih c hlast]; rfl
  | anyCase a ih =>
    rw [ranges, contains, Bool.eq_iff_iff, covers_closure_iff isFolding_foldRuns, Bool.or_eq_true,
      List.any_eq_true, ih c hlast]
    refine or_congr_right ?_
    constructor
    · rintro (hmoved | ⟨x, hx, hmoves⟩)
      · obtain ⟨d, hd⟩ := exists_toNat_eq (isValidChar_moved isFolding_foldRuns c)
        rw [← hd, ih d (toNat_le_lastCode d)] at hmoved
        exact ⟨d, mem_caseVariants.mpr (.inl hd), hmoved⟩
      · obtain ⟨d, rfl⟩ := exists_toNat_eq (isFolding_foldRuns.isValidChar_left hmoves)
        rw [ih d (toNat_le_lastCode d)] at hx
        exact ⟨d, mem_caseVariants.mpr (.inr hmoves), hx⟩
    · rintro ⟨d, hd, hcontains⟩
      rw [← ih d (toNat_le_lastCode d)] at hcontains
      obtain heq | hmoves := mem_caseVariants.mp hd
      · exact .inl (heq ▸ hcontains)
      · exact .inr ⟨d.toNat, hcontains, hmoves⟩
  | anyAsciiCase a ih =>
    rw [ranges, covers_closure_asciiFoldRuns, ih c hlast, ih (swapAsciiCase c) (toNat_le_lastCode _)]
    rfl

end WebRouting.CharClass
