import WebRouting.Url.Percent

/-! # Decoded paths

The path of a request is decoded once, before it is compared with any rule. An escaped slash stays
escaped: it belongs to a segment and must not become a boundary between two. -/

namespace WebRouting.Url

/-- A piece of a path without escaped slashes: decoded, or as it came if that is not text. -/
def decodePiece (piece : List Char) : List Char :=
  match percentDecode? piece with
  | some text => text.toList
  | none => piece

/-- Decodes what follows, with the current piece read backwards so far in `piece`. -/
def decodePathFrom (piece : List Char) : List Char → List Char
  | [] => decodePiece piece.reverse
  | '%' :: '2' :: f :: cs =>
    if f = 'F' ∨ f = 'f' then
      decodePiece piece.reverse ++ '%' :: '2' :: f :: decodePathFrom [] cs
    else decodePathFrom ('%' :: piece) ('2' :: f :: cs)
  | c :: cs => decodePathFrom (c :: piece) cs

/-- The decoded path: the pieces between escaped slashes decoded, each escaped slash kept. -/
def decodePath (raw : String) : String := String.ofList (decodePathFrom [] raw.toList)

end WebRouting.Url
