import WebRouting.Number.Numeral

/-! # Reading integers back

An integer is read back from the numeral that is written for it (`readInt?_writeInt`), and so is an
integer of 64 bits (`readInt64?_writeInt`): a written numeral is an optional minus before digits, and
digits hold no sign. -/

namespace WebRouting.Numeral

/-! ## Digits -/

theorem isDigit_of_mem_writeNat {n : Nat} {c : Char} (h : c ∈ writeNat n) : c.isDigit = true :=
  Nat.isDigit_of_mem_toDigits (by decide) (by decide) h

theorem writeNat_ne_nil (n : Nat) : writeNat n ≠ [] := Nat.toDigits_ne_nil

theorem ofDigitChars_writeNat (n : Nat) : Nat.ofDigitChars 10 (writeNat n) 0 = n :=
  Nat.ofDigitChars_ten_toDigits

theorem readDigits?_eq {cs : List Char} (hne : cs ≠ []) (h : ∀ c ∈ cs, c.isDigit = true) :
    readDigits? cs = some (Nat.ofDigitChars 10 cs 0) :=
  if_pos ⟨hne, List.all_eq_true.mpr h⟩

theorem ne_of_isDigit {c d : Char} (hc : c.isDigit = true) (hd : d.isDigit = false) : c ≠ d := by
  rintro rfl
  rw [hc] at hd
  cases hd

/-- Text that starts with a digit has no sign. -/
theorem splitSign_of_isDigit {c : Char} (hc : c.isDigit = true) (cs : List Char) :
    splitSign (c :: cs) = (false, c :: cs) := by
  have hminus := ne_of_isDigit hc (d := '-') (by decide)
  have hplus := ne_of_isDigit hc (d := '+') (by decide)
  simp [splitSign, hminus, hplus]

/-! ## Integers -/

theorem writeInt_of_neg {n : Int} (h : n < 0) : writeInt n = '-' :: writeNat n.natAbs := if_pos h

theorem writeInt_of_nonneg {n : Int} (h : 0 ≤ n) : writeInt n = writeNat n.natAbs :=
  if_neg (Int.not_lt.mpr h)

/-- An integer is read back from its numeral. -/
theorem readInt?_writeInt (n : Int) : readInt? (writeInt n) = some n := by
  rcases Int.lt_or_le n 0 with h | h
  · have hvalue : -(n.natAbs : Int) = n := by omega
    rw [writeInt_of_neg h, readInt?, splitSign]
    simp only [readDigits?_writeNat]
    exact congrArg some hvalue
  · have hvalue : (n.natAbs : Int) = n := by omega
    obtain ⟨c, cs, hcs⟩ := List.exists_cons_of_ne_nil (writeNat_ne_nil n.natAbs)
    have hc : c.isDigit = true := isDigit_of_mem_writeNat (hcs ▸ List.mem_cons_self)
    rw [writeInt_of_nonneg h, readInt?, hcs, splitSign_of_isDigit hc]
    simp only [← hcs, readDigits?_writeNat]
    exact congrArg some hvalue

/-- An integer of 64 bits is read back from its numeral. -/
theorem readInt64?_writeInt (n : Int64) : readInt64? (writeInt n.toInt) = some n := by
  rw [readInt64?, readInt?_writeInt]
  simp only [if_pos (And.intro n.minValue_le_toInt n.toInt_le), Int64.ofInt_toInt]

end WebRouting.Numeral
