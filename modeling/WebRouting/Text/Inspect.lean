import WebRouting.Unicode.Property
import WebRouting.Number.Numeral

/-! # Texts for inspection

One-line texts that show a value to a person who debugs: quoted strings, sequences, sets, and records
with named fields. -/

namespace WebRouting.Inspect

/-! ## Quoted strings -/

/-- Whether a character is shown as itself inside quotes: it is visible or a space, and it does not
join the character before it. -/
def isShown (c : Char) : Bool :=
  !Unicode.graphemeExtend.contains c &&
    (c = ' ' || Unicode.letter.contains c || Unicode.mark.contains c || Unicode.number.contains c ||
      Unicode.punctuation.contains c || Unicode.symbol.contains c)

/-- The digits of a code point in lower-case hexadecimal, without leading zeros. -/
def hexDigits (code : Nat) : List Char := Nat.toDigits 16 code

/-- A character inside quotes: a short escape where there is one, itself if it can be shown, and
otherwise its code point in braces. -/
def quotedChar (c : Char) : List Char :=
  match c with
  | '\x00' => ['\\', '0']
  | '\t' => ['\\', 't']
  | '\r' => ['\\', 'r']
  | '\n' => ['\\', 'n']
  | '\\' => ['\\', '\\']
  | '"' => ['\\', '"']
  | _ =>
    if isShown c then [c] else ['\\', 'u', '\x7b'] ++ hexDigits c.toNat ++ ['\x7d']

/-- The text in double quotes. -/
def quoted (s : String) : String :=
  String.ofList ('"' :: s.toList.flatMap quotedChar ++ ['"'])

/-! ## Compound values -/

/-- A sequence in square brackets. -/
def sequence (items : List String) : String := "[" ++ ", ".intercalate items ++ "]"

/-- A set in braces. -/
def set (items : List String) : String := "\x7b" ++ ", ".intercalate items ++ "\x7d"

/-- A named record. One that hides some of its fields says so with two dots after the last. -/
def record (name : String) (fields : List (String × String)) (hides : Bool) : String :=
  let shown := fields.map fun (field, text) => field ++ ": " ++ text
  let all := if hides then shown ++ [".."] else shown
  name ++ " \x7b " ++ ", ".intercalate all ++ " \x7d"

/-- A value with a name and one unnamed part. -/
def wrapped (name part : String) : String := name ++ "(" ++ part ++ ")"

/-- A natural number. -/
def count (n : Nat) : String := String.ofList (Numeral.writeNat n)

/-- A truth value. -/
def truth (b : Bool) : String := if b then "true" else "false"

end WebRouting.Inspect
