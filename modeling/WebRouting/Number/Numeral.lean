/-! # Integer numerals

Integers in decimal. A numeral to be read is an optional single sign before one or more ASCII digits:
leading zeros are allowed, blanks and separators are not. A written numeral has no superfluous sign
and no leading zeros, so `readInt?_writeInt` holds and not the other way round. -/

namespace WebRouting.Numeral

/-! ## Reading -/

/-- Takes one leading sign off; `true` stands for a minus. -/
def splitSign : List Char → Bool × List Char
  | '-' :: cs => (true, cs)
  | '+' :: cs => (false, cs)
  | cs => (false, cs)

/-- The value of one or more ASCII digits. -/
def readDigits? (cs : List Char) : Option Nat :=
  if cs ≠ [] ∧ cs.all Char.isDigit then some (Nat.ofDigitChars 10 cs 0) else none

/-- The value of a signed numeral. -/
def readInt? (cs : List Char) : Option Int :=
  let (negative, digits) := splitSign cs
  (readDigits? digits).map fun n => if negative then -(n : Int) else n

/-- The value of a signed numeral that fits 64 bits. -/
def readInt64? (cs : List Char) : Option Int64 :=
  match readInt? cs with
  | some n =>
    if Int64.minValue.toInt ≤ n ∧ n ≤ Int64.maxValue.toInt then some (Int64.ofInt n) else none
  | none => none

/-- The value of an unsigned numeral below `bound`. A plus sign is allowed and a minus sign is not,
not even before zero. -/
def readNatBelow? (bound : Nat) (cs : List Char) : Option Nat :=
  let digits := match cs with
    | '+' :: rest => rest
    | _ => cs
  (readDigits? digits).filter (· < bound)

/-! ## Hexadecimal digits -/

/-- The value of a hexadecimal digit of either case. -/
def hexValue? (c : Char) : Option Nat :=
  if '0' ≤ c ∧ c ≤ '9' then some (c.toNat - '0'.toNat)
  else if 'a' ≤ c ∧ c ≤ 'f' then some (c.toNat - 'a'.toNat + 10)
  else if 'A' ≤ c ∧ c ≤ 'F' then some (c.toNat - 'A'.toNat + 10)
  else none

/-- The value of one or more hexadecimal digits. -/
def readHex? (cs : List Char) : Option Nat :=
  if cs = [] then none
  else cs.foldl (fun value c => do return 16 * (← value) + (← hexValue? c)) (some 0)

/-! ## Writing -/

/-- The digits of a natural number, with no leading zeros. -/
def writeNat (n : Nat) : List Char := Nat.toDigits 10 n

/-- The digits of an integer after a minus sign if it is negative. -/
def writeInt (n : Int) : List Char :=
  if n < 0 then '-' :: writeNat n.natAbs else writeNat n.natAbs

@[simp] theorem readDigits?_writeNat (n : Nat) : readDigits? (writeNat n) = some n := by
  have hdigits : (Nat.toDigits 10 n).all Char.isDigit = true :=
    List.all_eq_true.2 fun _ hc => Nat.isDigit_of_mem_toDigits (by decide) (by decide) hc
  simp [readDigits?, writeNat, Nat.toDigits_ne_nil, hdigits, Nat.ofDigitChars_ten_toDigits]

end WebRouting.Numeral
