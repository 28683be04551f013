import WebRouting.Number.Numeral

/-! # Percent decoding

Two hexadecimal digits after a percent sign stand for a byte. A percent sign without them stands for
itself, and reading goes on right after it. The bytes found are text only if they are UTF-8; where
they are not, the caller decides what to keep. -/

namespace WebRouting.Url

/-- The byte that two hexadecimal digits write. -/
def hexByte? (high low : Char) : Option UInt8 :=
  match Numeral.hexValue? high, Numeral.hexValue? low with
  | some h, some l => some (UInt8.ofNat (16 * h + l))
  | _, _ => none

/-- The bytes that a text stands for: escapes are decoded and every other character gives its UTF-8
bytes. -/
def percentBytes : List Char → List UInt8
  | [] => []
  | '%' :: high :: low :: cs =>
    match hexByte? high low with
    | some byte => byte :: percentBytes cs
    | none => '%'.toUInt8 :: percentBytes (high :: low :: cs)
  | c :: cs => String.utf8EncodeChar c ++ percentBytes cs

/-- The decoded text, or `none` if the bytes are not UTF-8. -/
def percentDecode? (cs : List Char) : Option String :=
  String.fromUTF8? ⟨(percentBytes cs).toArray⟩

end WebRouting.Url
