import WebRouting.Json.Basic

/-! # JSON numbers

A number is an integer if it is written without a fraction and an exponent and fits 64 bits. Any other
number becomes a double in two steps: as many digits as fit 64 bits are rounded to a double, which is
then scaled by a power of ten. So the result can differ from the nearest double in its last place. -/

namespace WebRouting.Json

/-- The parts of a number as it is written. -/
structure NumberText where
  /-- Whether it has a minus sign. -/
  negative : Bool
  /-- The digits before the point. -/
  whole : List Char
  /-- The digits after the point, if there is one. -/
  fraction : Option (List Char)
  /-- The sign and the digits of the exponent, if there is one. -/
  exponent : Option (Bool × List Char)

/-! ## Reading -/

/-- Splits digits off the front. -/
def spanDigits (cs : List Char) : List Char × List Char := cs.span Char.isDigit

/-- Reads the digits before the point: zero alone or digits that do not start with it. -/
def readWhole? (cs : List Char) : Option (List Char × List Char) :=
  match spanDigits cs with
  | ([], _) => none
  | ('0' :: _ :: _, _) => none
  | (digits, rest) => some (digits, rest)

/-- Reads the point and the digits after it, if there is a point. -/
def readFraction? (cs : List Char) : Option (Option (List Char) × List Char) :=
  match cs with
  | '.' :: rest =>
    match spanDigits rest with
    | ([], _) => none
    | (digits, rest) => some (some digits, rest)
  | _ => some (none, cs)

/-- Reads the exponent, if there is one. -/
def readExponent? (cs : List Char) : Option (Option (Bool × List Char) × List Char) :=
  match cs with
  | c :: rest =>
    if c = 'e' ∨ c = 'E' then
      let (negative, rest) := Numeral.splitSign rest
      match spanDigits rest with
      | ([], _) => none
      | (digits, rest) => some (some (negative, digits), rest)
    else some (none, cs)
  | [] => some (none, [])

/-- Reads the parts of a number. -/
def readNumberText? (cs : List Char) : Option (NumberText × List Char) := do
  let (negative, cs) := match cs with
    | '-' :: rest => (true, rest)
    | _ => (false, cs)
  let (whole, cs) ← readWhole? cs
  let (fraction, cs) ← readFraction? cs
  let (exponent, cs) ← readExponent? cs
  return ({ negative, whole, fraction, exponent }, cs)

/-! ## Values -/

/-- Appends digits to a number as long as it stays below `2 ^ 64`. The rest is returned. -/
def absorb (significand : Nat) : List Char → Nat × List Char
  | [] => (significand, [])
  | c :: cs =>
    let next := 10 * significand + (c.toNat - '0'.toNat)
    if next < UInt64.size then absorb next cs else (significand, c :: cs)

/-- The greatest exponent of ten that is a finite double. -/
def powerLimit : Nat := 308

/-- The double nearest to `10 ^ n`, which is a natural number, for `n` up to `powerLimit`. -/
def powerOfTen (n : Nat) : Nat :=
  match Double.ofDecimal false 1 n with
  | .finite _ m e _ => Double.numerator m e / Double.denominator e
  | _ => 0

/-- Multiplies by a power of ten, or divides by one, in steps that a double can hold. There is no result
that is not finite. -/
def scaleByTen? (x : Double) (exponent : Int) : Option Double :=
  if exponent.natAbs ≤ powerLimit then
    let power := powerOfTen exponent.natAbs
    let scaled := if 0 ≤ exponent then x.scale power 1 else x.scale 1 power
    if scaled.isFinite then some scaled else none
  else if x.isZero then some x
  else if 0 ≤ exponent then none
  else scaleByTen? (x.scale 1 (powerOfTen powerLimit)) (exponent + powerLimit)
termination_by (-exponent).toNat
decreasing_by simp only [powerLimit] at *; omega

/-- The double that a number is read as. An exponent of more than 32 bits gives zero, unless it is
positive and the number is not zero. -/
def NumberText.float? (t : NumberText) : Option Double := do
  let (significand, dropped) := absorb 0 t.whole
  let fraction := t.fraction.getD []
  let (significand, ignored) := absorb significand fraction
  let places : Int := (dropped.length : Int) - (fraction.length - ignored.length : Nat)
  let magnitude := Double.ofInt significand
  let unsigned ← match t.exponent with
    | none => scaleByTen? magnitude places
    | some (negative, digits) =>
      let exponent : Nat := Nat.ofDigitChars 10 digits 0
      if exponent ≤ Int32.maxValue.toInt then
        scaleByTen? magnitude (if negative then places - exponent else places + exponent)
      else if significand ≠ 0 ∧ !negative then none
      else some (.zero false)
  return if t.negative then unsigned.negate else unsigned

/-- The value of a number. Minus zero is no integer. -/
def NumberText.value? (t : NumberText) : Option Json :=
  let n := Nat.ofDigitChars 10 t.whole 0
  let fits := if t.negative then 0 < n ∧ Int64.minValue.toInt ≤ -(n : Int) else n < UInt64.size
  if t.fraction = none ∧ t.exponent = none ∧ fits then
    some (.int (if t.negative then -(n : Int) else n))
  else t.float?.map .float

end WebRouting.Json
