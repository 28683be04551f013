import WebRouting.Number.Shortest

/-! # JSON values

Values of the JSON format and their compact text. The members of an object are kept in increasing order
of their keys, so that a value has one text. -/

namespace WebRouting

/-- A JSON value. -/
inductive Json where
  /-- The null value. -/
  | null
  /-- A truth value. -/
  | bool (b : Bool)
  /-- An integer. -/
  | int (n : Int)
  /-- A number that is not kept as an integer. -/
  | float (x : Double)
  /-- A string. -/
  | string (s : String)
  /-- An array. -/
  | array (items : List Json)
  /-- An object, by key. -/
  | object (members : List (String × Json))

namespace Json

/-! ## Objects -/

/-- Puts a member in its place, instead of one with the same key. -/
def putMember (key : String) (value : Json) : List (String × Json) → List (String × Json)
  | [] => [(key, value)]
  | (other, old) :: members =>
    if key < other then (key, value) :: (other, old) :: members
    else if key = other then (key, value) :: members
    else (other, old) :: putMember key value members

/-- The object with the members of a list. Of two with the same key the later one counts. -/
def ofMembers (members : List (String × Json)) : Json :=
  .object (members.foldl (fun placed (key, value) => putMember key value placed) [])

/-! ## Text -/

/-- The four hexadecimal digits of a control character. -/
def controlDigits (c : Char) : List Char :=
  let digits := Nat.toDigits 16 c.toNat
  List.replicate (4 - digits.length) '0' ++ digits

/-- A character inside quotes. -/
def quotedChar (c : Char) : List Char :=
  match c with
  | '"' => ['\\', '"']
  | '\\' => ['\\', '\\']
  | '\n' => ['\\', 'n']
  | '\r' => ['\\', 'r']
  | '\t' => ['\\', 't']
  | '\x08' => ['\\', 'b']
  | '\x0c' => ['\\', 'f']
  | _ => if c < ' ' then '\\' :: 'u' :: controlDigits c else [c]

/-- A string in quotes. -/
def quoted (s : String) : String := String.ofList ('"' :: s.toList.flatMap quotedChar ++ ['"'])

mutual

/-- The compact text of a value. -/
def text : Json → String
  | null => "null"
  | bool b => if b then "true" else "false"
  | int n => String.ofList (Numeral.writeInt n)
  | float x => String.ofList (x.shortText?.getD "null".toList)
  | string s => quoted s
  | array items => "[" ++ ",".intercalate (itemTexts items) ++ "]"
  | object members => "\x7b" ++ ",".intercalate (memberTexts members) ++ "\x7d"

/-- The texts of the items of an array. -/
def itemTexts : List Json → List String
  | [] => []
  | item :: items => text item :: itemTexts items

/-- The texts of the members of an object. -/
def memberTexts : List (String × Json) → List String
  | [] => []
  | (key, value) :: members => (quoted key ++ ":" ++ text value) :: memberTexts members

end

end Json

end WebRouting
