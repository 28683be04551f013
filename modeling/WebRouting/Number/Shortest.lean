import WebRouting.Number.Double

/-! # Decimal text of doubles

A finite number is written with the fewest digits that read back as it, and among those with the
digits nearest to it. `Double.shortest` finds them: for one digit, two digits and so on it looks at
the two neighbours of the number on the grid of that many digits and takes the first that reads
back. How a tie is settled and how the digits are laid out is up to the format: `Double.plainText`
never uses an exponent, and `Double.shortText?` uses one for very large and very small numbers. -/

namespace WebRouting

/-- The decimal number `digits * 10 ^ exponent`. -/
structure Decimal where
  /-- All digits, read as a natural number. -/
  digits : Nat
  /-- The exponent of ten. -/
  exponent : Int
deriving DecidableEq

namespace Decimal

/-- Moves zeros at the end of the digits into the exponent. -/
def trim (d : Decimal) : Decimal :=
  if d.digits = 0 then d
  else if d.digits % 10 = 0 then trim ⟨d.digits / 10, d.exponent + 1⟩
  else d
termination_by d.digits
decreasing_by omega

end Decimal

namespace Double

/-- The `p` with `10 ^ (p - 1) ≤ num / den < 10 ^ p`, for a positive ratio. -/
def decimalMagnitude (num den : Nat) : Int :=
  if den ≤ num then (Numeral.writeNat (num / den)).length
  else 1 - (Numeral.writeNat ((den - 1) / num)).length

/-- Which of two equally near decimals is taken. -/
inductive Tie where
  /-- The greater one. -/
  | up
  /-- The one with an even last digit. -/
  | even
deriving DecidableEq

/-- Whether a tie above the digits `below` is settled upward. -/
def Tie.goesUp : Tie → Nat → Bool
  | .up, _ => true
  | .even, below => below % 2 == 1

/-- The neighbours of `num / den` among the multiples of `10 ^ exponent`, the nearer one first. -/
def neighbours (tie : Tie) (num den : Nat) (exponent : Int) : List Decimal :=
  let scaled := num * Nat.pow 10 (-exponent).toNat
  let unit := den * Nat.pow 10 exponent.toNat
  let quotient := scaled / unit
  let twice := 2 * (scaled % unit)
  if unit < twice ∨ (unit = twice ∧ tie.goesUp quotient) then
    [⟨quotient + 1, exponent⟩, ⟨quotient, exponent⟩]
  else [⟨quotient, exponent⟩, ⟨quotient + 1, exponent⟩]

/-- The digits of `num / den` exactly, for a denominator that is a power of two. -/
def exactDecimal (significand : Nat) (exponent : Int) : Decimal :=
  ⟨significand * Nat.pow 2 exponent.toNat * Nat.pow 5 (-exponent).toNat, min exponent 0⟩

/-- The shortest decimal that reads back as the finite number with these parts. -/
def shortest (tie : Tie) (significand : Nat) (exponent : Int) : Decimal :=
  if significand = 0 then ⟨0, 0⟩
  else
    let num := numerator significand exponent
    let den := denominator exponent
    let magnitude := decimalMagnitude num den
    let candidates := (List.range 17).flatMap fun i =>
      (neighbours tie num den (magnitude - (i + 1 : Nat))).map Decimal.trim
    let readsBack (d : Decimal) : Bool :=
      match ofDecimal false d.digits d.exponent with
      | .finite _ m e _ => m == significand && e == exponent
      | _ => false
    (candidates.find? readsBack).getD (exactDecimal significand exponent)

/-! ## Layouts -/

/-- The digits in place, with zeros up to the point and no exponent. A whole number has no point. -/
def positional (d : Decimal) : List Char :=
  let digits := Numeral.writeNat d.digits
  if 0 ≤ d.exponent then digits ++ List.replicate d.exponent.toNat '0'
  else
    let places := (-d.exponent).toNat
    let padded := List.replicate (places + 1 - digits.length) '0' ++ digits
    padded.take (padded.length - places) ++ '.' :: padded.drop (padded.length - places)

/-- A minus sign for a negative number, negative zero included. -/
def signText (negative : Bool) : List Char := if negative then ['-'] else []

/-- The number in plain decimal: never an exponent, and `.0` after a whole number. -/
def plainText : Double → List Char
  | .nan => "NaN".toList
  | .infinite negative => signText negative ++ "inf".toList
  | d@(.finite negative m e _) =>
    signText negative ++ positional (shortest .up m e) ++ if d.isIntegral then ".0".toList else []

/-- The digits with a point after the first and an explicitly signed exponent. -/
def scientific (d : Decimal) : List Char :=
  let digits := Numeral.writeNat d.digits
  let exponent : Int := d.exponent + digits.length - 1
  let mark := if exponent < 0 then '-' else '+'
  digits.take 1 ++ (if digits.length = 1 then [] else '.' :: digits.drop 1) ++
    'e' :: mark :: Numeral.writeNat exponent.natAbs

/-- The number with an exponent below `10 ^ -5` and from `10 ^ 16` on, in plain decimal between, and
`none` for one that is not finite. -/
def shortText? : Double → Option (List Char)
  | d@(.finite negative m e _) =>
    let decimal := shortest .even m e
    let point : Int := decimal.exponent + (Numeral.writeNat decimal.digits).length
    some <|
      if m ≠ 0 ∧ (point ≤ -5 ∨ 16 < point) then signText negative ++ scientific decimal
      else signText negative ++ positional decimal ++ if d.isIntegral then ".0".toList else []
  | _ => none

end Double

end WebRouting
