import WebRouting.Json.Number

/-! # Reading JSON

A value with blanks around it and nothing else. Arrays and objects may be nested up to a limit. Of two
members with the same key the later one counts. -/

namespace WebRouting.Json

/-- A blank of the format. -/
def isBlank (c : Char) : Bool := c = ' ' || c = '\t' || c = '\n' || c = '\r'

/-- Drops blanks. -/
def skip (cs : List Char) : List Char := cs.dropWhile isBlank

/-! ## Strings -/

/-- Reads four hexadecimal digits. -/
def readUnit? : List Char → Option (Nat × List Char)
  | a :: b :: c :: d :: rest => (Numeral.readHex? [a, b, c, d]).map (·, rest)
  | _ => none

/-- Reads the character of an escape in hexadecimal: one unit, or two that are surrogates of each
other. -/
def readUnicode? (cs : List Char) : Option (Char × List Char) := do
  let (high, rest) ← readUnit? cs
  if 0xD800 ≤ high ∧ high < 0xDC00 then
    match rest with
    | '\\' :: 'u' :: rest =>
      let (low, rest) ← readUnit? rest
      if 0xDC00 ≤ low ∧ low < 0xE000 then
        return (Char.ofNat (0x10000 + (high - 0xD800) * 0x400 + (low - 0xDC00)), rest)
      else none
    | _ => none
  else if 0xDC00 ≤ high ∧ high < 0xE000 then none
  else return (Char.ofNat high, rest)

/-- Reads what follows a backslash. -/
def readStringEscape? : List Char → Option (Char × List Char)
  | '"' :: rest => some ('"', rest)
  | '\\' :: rest => some ('\\', rest)
  | '/' :: rest => some ('/', rest)
  | 'b' :: rest => some ('\x08', rest)
  | 'f' :: rest => some ('\x0c', rest)
  | 'n' :: rest => some ('\n', rest)
  | 'r' :: rest => some ('\r', rest)
  | 't' :: rest => some ('\t', rest)
  | 'u' :: rest => readUnicode? rest
  | _ => none

/-- Reads the rest of a string, after the characters read so far, the last one first. -/
def readString? (read : List Char) : List Char → Option (String × List Char)
  | [] => none
  | '"' :: rest => some (String.ofList read.reverse, rest)
  | '\\' :: rest =>
    match readStringEscape? rest with
    | none => none
    | some (c, after) =>
      if after.length < rest.length + 1 then readString? (c :: read) after
      else none -- unreachable: an escape has at least one character
  | c :: rest => if c < ' ' then none else readString? (c :: read) rest
termination_by cs => cs.length
decreasing_by
  · assumption
  · exact Nat.lt_succ_self _

/-! ## Values -/

/-- Takes a word off the front. -/
def afterWord? (word : String) (cs : List Char) : Option (List Char) :=
  if word.toList.isPrefixOf cs then some (cs.drop word.length) else none

/-- Reads a value that is no array and no object. -/
def readScalar? (cs : List Char) : Option (Json × List Char) :=
  match cs with
  | '"' :: rest => (readString? [] rest).map fun (s, rest) => (.string s, rest)
  | 'n' :: _ => (afterWord? "null" cs).map (.null, ·)
  | 't' :: _ => (afterWord? "true" cs).map (.bool true, ·)
  | 'f' :: _ => (afterWord? "false" cs).map (.bool false, ·)
  | _ => do
    let (number, rest) ← readNumberText? cs
    return (← number.value?, rest)

/-- Reads items up to the end of an array, given how a value is read. -/
def readItems? (readValue? : List Char → Option (Json × List Char)) (items : List Json)
    (cs : List Char) : Option (Json × List Char) :=
  match readValue? cs with
  | none => none
  | some (item, rest) =>
    match skip rest with
    | ']' :: after => some (.array (item :: items).reverse, after)
    | ',' :: after =>
      if after.length < cs.length then readItems? readValue? (item :: items) after
      else none -- unreachable: what is left gets shorter
    | _ => none
termination_by cs.length

/-- Reads a key and the colon after it. -/
def readKey? (cs : List Char) : Option (String × List Char) :=
  match skip cs with
  | '"' :: rest => do
    let (key, rest) ← readString? [] rest
    match skip rest with
    | ':' :: after => return (key, after)
    | _ => none
  | _ => none

/-- Reads members up to the end of an object, given how a value is read. -/
def readMembers? (readValue? : List Char → Option (Json × List Char))
    (members : List (String × Json)) (cs : List Char) : Option (Json × List Char) :=
  match readKey? cs with
  | none => none
  | some (key, rest) =>
    match readValue? rest with
    | none => none
    | some (value, rest) =>
      match skip rest with
      | '\x7d' :: after => some (ofMembers ((key, value) :: members).reverse, after)
      | ',' :: after =>
        if after.length < cs.length then readMembers? readValue? ((key, value) :: members) after
        else none -- unreachable: what is left gets shorter
      | _ => none
termination_by cs.length

/-- Reads a value whose arrays and objects are nested at most `depth` deep. -/
def readValue? : (depth : Nat) → List Char → Option (Json × List Char)
  | 0, cs => readScalar? (skip cs)
  | depth + 1, cs =>
    match skip cs with
    | '[' :: rest =>
      match skip rest with
      | ']' :: after => some (.array [], after)
      | _ => readItems? (readValue? depth) [] rest
    | '\x7b' :: rest =>
      match skip rest with
      | '\x7d' :: after => some (.object [], after)
      | _ => readMembers? (readValue? depth) [] rest
    | rest => readScalar? rest

/-- How deep arrays and objects may be nested. -/
def nestingLimit : Nat := 127

/-- Reads a text that is one value. -/
def read? (text : String) : Option Json :=
  match readValue? nestingLimit text.toList with
  | some (value, rest) => if skip rest = [] then some value else none
  | none => none

/-- Reads bytes that are one value, as UTF-8. -/
def ofBytes? (bytes : ByteArray) : Option Json := (String.fromUTF8? bytes).bind read?

end WebRouting.Json
