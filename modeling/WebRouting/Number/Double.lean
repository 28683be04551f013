import WebRouting.Number.Numeral

/-! # Double-precision numbers

The 64-bit binary floating-point numbers as data: a sign, a significand below `2 ^ 53` and an
exponent of two. Nothing here uses machine arithmetic. Every operation computes an exact ratio of
natural numbers and rounds it once, to the nearest number and on a tie to the even significand. -/

namespace WebRouting

/-- Significand and exponent of a finite number: the significand has 53 bits, fewer only at the least
exponent, so that no number has two forms. -/
def Double.Canonical (significand : Nat) (exponent : Int) : Prop :=
  significand < Nat.pow 2 53 ∧ -1074 ≤ exponent ∧ exponent ≤ 971 ∧
    (Nat.pow 2 52 ≤ significand ∨ exponent = -1074)

instance (m : Nat) (e : Int) : Decidable (Double.Canonical m e) := by
  unfold Double.Canonical; infer_instance

/-- A double-precision number. -/
inductive Double where
  /-- The result of a meaningless operation. -/
  | nan
  /-- An infinity. -/
  | infinite (negative : Bool)
  /-- The number `significand * 2 ^ exponent`, negated if `negative`. -/
  | finite (negative : Bool) (significand : Nat) (exponent : Int)
      (canonical : Double.Canonical significand exponent)
deriving DecidableEq

namespace Double

/-! ## Views -/

/-- Zero of either sign. -/
def zero (negative : Bool) : Double := .finite negative 0 (-1074) (by decide)

/-- Whether the number is neither infinite nor meaningless. -/
def isFinite : Double → Bool
  | .finite .. => true
  | _ => false

/-- The numerator of `significand * 2 ^ exponent`. -/
def numerator (significand : Nat) (exponent : Int) : Nat :=
  significand * Nat.pow 2 exponent.toNat

/-- The denominator of `significand * 2 ^ exponent`. -/
def denominator (exponent : Int) : Nat := Nat.pow 2 (-exponent).toNat

/-- Whether the number is finite and a whole number. -/
def isIntegral : Double → Bool
  | .finite _ m e _ => numerator m e % denominator e == 0
  | _ => false

/-! ## Rounding -/

/-- The quotient rounded to the nearest natural number, on a tie to the even one. -/
def divideToEven (num den : Nat) : Nat :=
  let quotient := num / den
  let remainder := num % den
  if 2 * remainder < den then quotient
  else if den < 2 * remainder then quotient + 1
  else quotient + quotient % 2

/-- Whether `num / den < 2 ^ e`. -/
def belowPower (num den : Nat) (e : Int) : Bool :=
  num * Nat.pow 2 (-e).toNat < den * Nat.pow 2 e.toNat

/-- The exponent of the last bit kept of `num / den`: 52 below its leading bit, but never below the
least exponent. -/
def lastBit (num den : Nat) : Int :=
  let estimate : Int := (num.log2 : Int) - den.log2
  let leading := if belowPower num den estimate then estimate - 1 else estimate
  max (leading - 52) (-1074)

/-- The number with a rounded significand: one that rounding has carried to `2 ^ 53` is halved, and
one beyond the greatest exponent is infinite. -/
def ofRounded (negative : Bool) (significand : Nat) (exponent : Int) : Double :=
  if h : Canonical significand exponent then .finite negative significand exponent h
  else if h : Canonical (significand / 2) (exponent + 1) then
    .finite negative (significand / 2) (exponent + 1) h
  else .infinite negative

/-- The double nearest to `num / den`. -/
def ofRatio (negative : Bool) (num den : Nat) : Double :=
  if num = 0 then zero negative
  else
    let e := lastBit num den
    let scaled := divideToEven (num * Nat.pow 2 (-e).toNat) (den * Nat.pow 2 e.toNat)
    ofRounded negative scaled e

/-- The double nearest to `digits * 10 ^ exponent`. -/
def ofDecimal (negative : Bool) (digits : Nat) (exponent : Int) : Double :=
  ofRatio negative (digits * Nat.pow 10 exponent.toNat) (Nat.pow 10 (-exponent).toNat)

/-- The double nearest to an integer. -/
def ofInt (n : Int) : Double := ofRatio (n < 0) n.natAbs 1

/-! ## Scaling -/

/-- Whether the number is zero of either sign. -/
def isZero : Double → Bool
  | .finite _ m _ _ => m == 0
  | _ => false

/-- The number with the other sign. -/
def negate : Double → Double
  | .nan => .nan
  | .infinite negative => .infinite !negative
  | .finite negative m e h => .finite (!negative) m e h

/-- The double nearest to a finite number times `num / den`. -/
def scale (x : Double) (num den : Nat) : Double :=
  match x with
  | .finite negative m e _ => ofRatio negative (numerator m e * num) (denominator e * den)
  | x => x

/-! ## Integer parts -/

/-- The integer part of a finite number, toward zero. -/
def truncate (negative : Bool) (significand : Nat) (exponent : Int) : Int :=
  let magnitude : Nat := numerator significand exponent / denominator exponent
  if negative then -(magnitude : Int) else magnitude

/-- The integer part, moved to the nearest bound when it does not fit 64 bits; zero for `nan`. -/
def toInt64 : Double → Int64
  | .nan => 0
  | .infinite negative => if negative then Int64.minValue else Int64.maxValue
  | .finite negative m e _ => Int64.ofIntClamp (truncate negative m e)

/-! ## Reading -/

/-- A power of ten that is as good as any greater one, and whose negative is as good as any smaller
one, for a numeral of that many digits. -/
def exponentLimit (digitCount : Nat) : Int := digitCount + 400

/-- Splits at the first exponent mark; `none` if there is no mark. -/
def splitExponent (cs : List Char) : List Char × Option (List Char) :=
  match cs.span fun c => c ≠ 'e' && c ≠ 'E' with
  | (mantissa, _ :: exponent) => (mantissa, some exponent)
  | (mantissa, []) => (mantissa, none)

/-- Splits at the first decimal point; without one the fraction is empty. -/
def splitPoint (cs : List Char) : List Char × List Char :=
  match cs.span (· ≠ '.') with
  | (whole, _ :: fraction) => (whole, fraction)
  | (whole, []) => (whole, [])

/-- Reads digits with at most one point among them, and a signed exponent after them if any. -/
def readUnsigned? (negative : Bool) (cs : List Char) : Option Double := do
  let (mantissa, mark) := splitExponent cs
  let (whole, fraction) := splitPoint mantissa
  let digits ← Numeral.readDigits? (whole ++ fraction)
  let exponent ← match mark with
    | none => some 0
    | some e => Numeral.readInt? e
  let limit := exponentLimit (whole ++ fraction).length
  return ofDecimal negative digits (max (-limit) (min limit exponent) - fraction.length)

/-- Reads a decimal numeral or, in any case of letters, `inf`, `infinity` or `nan`, each after an
optional sign. -/
def read? (cs : List Char) : Option Double :=
  let (negative, body) := Numeral.splitSign cs
  let name := body.map Char.toLower
  if name = "inf".toList ∨ name = "infinity".toList then some (.infinite negative)
  else if name = "nan".toList then some .nan
  else readUnsigned? negative body

end Double

end WebRouting
