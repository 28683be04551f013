import Mathlib.Algebra.Order.Floor.Ring
import Mathlib.Data.Rat.Floor
import WebRouting.Proofs.Number.Readable

/-! # Integers of 64 bits

Which integer a text spells is a matter of its digits and their places (`Numeral.Spells`), whatever their
number. It is read if it fits 64 bits (`Numeral.readInt64?_eq_some_iff`). A double becomes an integer of
64 bits by dropping its fraction and moving what is left to the nearest bound
(`Double.toInt_toInt64`). -/

namespace WebRouting

/-! ## Spelled integers -/

namespace Numeral

variable {negative : Bool} {body : List Char}

/-- The value of digits, each of which counts the power of ten of its place. -/
def placeValue : List Char → Nat
  | [] => 0
  | c :: cs => (c.toNat - '0'.toNat) * 10 ^ cs.length + placeValue cs

/-- The text is one of ASCII digits, at least one, after a minus or nothing, and their value with this
sign is the integer. -/
def Spells (cs : List Char) (n : Int) : Prop :=
  ∃ negative digits, cs = Double.signText negative ++ digits ∧
    (digits ≠ [] ∧ ∀ c ∈ digits, c.isDigit = true) ∧
    n = if negative then -(placeValue digits : Int) else placeValue digits

/-- The text spells an integer that fits 64 bits. -/
def SpellsInt64 (cs : List Char) (n : Int) : Prop :=
  Spells cs n ∧ -2 ^ 63 ≤ n ∧ n ≤ 2 ^ 63 - 1

/-- Reading digits one after the other adds up the values of their places. -/
theorem ofDigitChars_eq (digits : List Char) (before : Nat) :
    Nat.ofDigitChars 10 digits before = before * 10 ^ digits.length + placeValue digits := by
  induction digits generalizing before with
  | nil => simp [placeValue]
  | cons c cs ih =>
    rw [Nat.ofDigitChars_cons, ih, placeValue, List.length_cons, Nat.pow_succ]
    ring

theorem signedValue_eq (negative : Bool) (digits : List Char) :
    signedValue negative digits =
      if negative then -(placeValue digits : Int) else placeValue digits := by
  rw [signedValue, ofDigitChars_eq, Nat.zero_mul, Nat.zero_add]

/-- The value of digits with a sign is read if it is within the bounds. -/
theorem readInt64?_signText (hplain : ∀ c ∈ body, IsPlain c)
    (hdigits : body ≠ [] ∧ ∀ c ∈ body, c.isDigit = true) :
    readInt64? (Double.signText negative ++ body) =
      if Int64.minValue.toInt ≤ signedValue negative body ∧
          signedValue negative body ≤ Int64.maxValue.toInt then
        some (Int64.ofInt (signedValue negative body))
      else none := by
  have hvalue : readInt? (Double.signText negative ++ body) = some (signedValue negative body) := by
    rw [readInt?_signText hplain, readDigits?_eq hdigits.1 hdigits.2]
    rfl
  rw [readInt64?, hvalue]

/-- An integer of 64 bits is read from ASCII digits with its value. -/
theorem readInt64?_eq_some_iff (hplain : ∀ c ∈ body, IsPlain c) {k : Int64} :
    readInt64? (Double.signText negative ++ body) = some k ↔
      (body ≠ [] ∧ ∀ c ∈ body, c.isDigit = true) ∧ signedValue negative body = k.toInt := by
  constructor
  · intro hread
    have hsome : (readInt64? (Double.signText negative ++ body)).isSome = true := by rw [hread]; rfl
    obtain ⟨hdigits, hleast, hmost⟩ := (isSome_readInt64?_iff hplain).mp hsome
    rw [readInt64?_signText hplain hdigits, Int64.toInt_minValue, Int64.toInt_maxValue,
      if_pos ⟨hleast, hmost⟩] at hread
    cases hread
    exact ⟨hdigits, (Int64.toInt_ofInt_of_le hleast (by omega)).symm⟩
  · rintro ⟨hdigits, hvalue⟩
    rw [readInt64?_signText hplain hdigits, hvalue, if_pos ⟨k.minValue_le_toInt, k.toInt_le⟩,
      Int64.ofInt_toInt]

end Numeral

/-! ## Integers from doubles -/

namespace Double

/-- The integer part of a number, toward zero. -/
def towardZero (q : ℚ) : Int := if 0 ≤ q then ⌊q⌋ else ⌈q⌉

/-- The integer at the nearest end of 64 bits, or the integer itself if it is between them. -/
def saturate (n : Int) : Int := max (-2 ^ 63) (min (2 ^ 63 - 1) n)

/-- The integer that a double is made to: its integer part as far as it fits, and zero for `nan`. -/
def integerValue : Double → Int
  | .nan => 0
  | .infinite negative => if negative then -2 ^ 63 else 2 ^ 63 - 1
  | .finite negative m e _ => saturate (towardZero (if negative then -(m * 2 ^ e) else m * 2 ^ e))

theorem towardZero_neg (q : ℚ) : towardZero (-q) = -towardZero q := by
  rw [towardZero, towardZero]
  rcases lt_trichotomy q 0 with hq | rfl | hq
  · rw [if_pos (by linarith), if_neg (not_le.mpr hq), Int.floor_neg]
  · simp
  · rw [if_neg (by linarith), if_pos hq.le, Int.ceil_neg]

/-- Dividing the numerator drops the fraction of a double. -/
theorem truncate_eq (negative : Bool) (m : Nat) (e : Int) :
    truncate negative m e = towardZero (if negative then -(m * 2 ^ e) else m * 2 ^ e) := by
  have hmagnitude : towardZero (m * 2 ^ e) = (numerator m e / denominator e : Nat) := by
    rw [towardZero, if_pos (by positivity), ← numerator_div_denominator,
      Rat.floor_natCast_div_natCast]
    rfl
  rw [truncate]
  cases negative with
  | false => exact hmagnitude.symm
  | true =>
    rw [if_pos rfl, if_pos rfl, towardZero_neg, hmagnitude]

theorem toInt_ofIntClamp (n : Int) : (Int64.ofIntClamp n).toInt = saturate n := by
  rw [Int64.ofIntClamp, saturate]
  by_cases hleast : Int64.minValue.toInt ≤ n
  · rw [dif_pos hleast]
    rw [Int64.toInt_minValue] at hleast
    by_cases hmost : n ≤ Int64.maxValue.toInt
    · rw [dif_pos hmost, Int64.toInt_ofIntLE]
      rw [Int64.toInt_maxValue] at hmost
      omega
    · rw [dif_neg hmost, Int64.toInt_maxValue]
      rw [Int64.toInt_maxValue] at hmost
      omega
  · rw [dif_neg hleast, Int64.toInt_minValue]
    rw [Int64.toInt_minValue] at hleast
    omega

/-- A double is made to an integer of 64 bits by dropping its fraction and moving it to the nearest
bound. -/
theorem toInt_toInt64 (x : Double) : x.toInt64.toInt = x.integerValue := by
  cases x with
  | nan => rfl
  | infinite negative => cases negative <;> rfl
  | finite negative m e h =>
    rw [toInt64, integerValue, ← truncate_eq, toInt_ofIntClamp]

end Double

end WebRouting
