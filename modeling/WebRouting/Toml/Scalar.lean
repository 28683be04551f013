import WebRouting.Number.Double
import WebRouting.Toml.Basic

/-! # TOML scalars

Readers of blanks, strings, numbers, dates and times. Each takes the text from a given place on and
returns what follows. -/

namespace WebRouting.Toml

/-! ## Characters -/

/-- A blank inside a line. -/
def isBlank (c : Char) : Bool := c = ' ' || c = '\t'

/-- Drops blanks inside a line. -/
def skip (cs : List Char) : List Char := cs.dropWhile isBlank

/-- A character that may stand in comments and, some quotes and backslashes apart, in strings. -/
def isText (c : Char) : Bool := c = '\t' || (' ' ≤ c && c ≠ '\x7F')

/-- Takes the end of a line off. -/
def afterNewline? : List Char → Option (List Char)
  | '\n' :: rest => some rest
  | '\r' :: '\n' :: rest => some rest
  | _ => none

/-- Drops a comment up to the end of its line, if one starts here. -/
def skipComment (cs : List Char) : List Char :=
  match cs with
  | '#' :: rest => rest.dropWhile isText
  | _ => cs

/-! ## Strings -/

/-- The character of an escape in hexadecimal, of `width` digits. -/
def readUnicode? (width : Nat) (cs : List Char) : Option (Char × List Char) := do
  let digits := cs.take width
  let code ← Numeral.readHex? digits
  if digits.length = width ∧ code.isValidChar then return (Char.ofNat code, cs.drop width)
  else none

/-- Reads what follows a backslash. -/
def readEscape? : List Char → Option (Char × List Char)
  | 'b' :: rest => some ('\x08', rest)
  | 't' :: rest => some ('\t', rest)
  | 'n' :: rest => some ('\n', rest)
  | 'f' :: rest => some ('\x0c', rest)
  | 'r' :: rest => some ('\r', rest)
  | '"' :: rest => some ('"', rest)
  | '\\' :: rest => some ('\\', rest)
  | 'u' :: rest => readUnicode? 4 rest
  | 'U' :: rest => readUnicode? 8 rest
  | _ => none

/-- Reads the rest of a string in double quotes, after the characters read so far, the last one
first. -/
def readBasic? (read : List Char) : List Char → Option (String × List Char)
  | [] => none
  | '"' :: rest => some (String.ofList read.reverse, rest)
  | '\\' :: rest =>
    match readEscape? rest with
    | none => none
    | some (c, after) =>
      if after.length < rest.length + 1 then readBasic? (c :: read) after
      else none -- unreachable: an escape has at least one character
  | c :: rest => if isText c then readBasic? (c :: read) rest else none
termination_by cs => cs.length
decreasing_by
  · assumption
  · exact Nat.lt_succ_self _

/-- Reads the rest of a string in single quotes, which has no escapes. -/
def readLiteral? (cs : List Char) : Option (String × List Char) :=
  let body := cs.takeWhile fun c => c ≠ '\'' && isText c
  match cs.drop body.length with
  | '\'' :: rest => some (String.ofList body, rest)
  | _ => none

/-- What follows a backslash that ends its line: all blanks and newlines up to the next text. -/
def afterLineEnd? (cs : List Char) : Option (List Char) :=
  (afterNewline? (skip cs)).map fun rest =>
    rest.dropWhile fun c => isBlank c || c = '\n' || c = '\r'

/-- How many of the quotes in a row belong to the string that three of them end. -/
def innerQuotes (count : Nat) : Nat := min (count - 3) 2

/-- Reads the rest of a string of several lines, whose ends are three quotes. Up to two quotes in a row
stand for themselves, also before the end. Newlines are read in one form. -/
def readLines? (quote : Char) (escapes : Bool) (read : List Char) (cs : List Char) :
    Option (String × List Char) :=
  let go (read : List Char) (rest : List Char) : Option (String × List Char) :=
    if rest.length < cs.length then readLines? quote escapes read rest
    else none -- unreachable: what is left gets shorter
  match afterNewline? cs with
  | some rest => go ('\n' :: read) rest
  | none =>
    match cs with
    | [] => none
    | c :: rest =>
      if c = quote then
        let count := (cs.takeWhile (· = quote)).length
        if count < 3 then go (List.replicate count quote ++ read) (cs.drop count)
        else
          let inner := innerQuotes count
          some (String.ofList (List.replicate inner quote ++ read).reverse, cs.drop (inner + 3))
      else if c = '\\' ∧ escapes then
        match readEscape? rest with
        | some (c, after) => go (c :: read) after
        | none => (afterLineEnd? rest).bind (go read)
      else if isText c then go (c :: read) rest
      else none
termination_by cs.length
decreasing_by assumption

/-- Drops a newline, if there is one. -/
def skipNewline (cs : List Char) : List Char := (afterNewline? cs).getD cs

/-- Reads a string that starts with a quote. -/
def readString? : List Char → Option (String × List Char)
  | '"' :: '"' :: '"' :: rest => readLines? '"' true [] (skipNewline rest)
  | '\'' :: '\'' :: '\'' :: rest => readLines? '\'' false [] (skipNewline rest)
  | '"' :: rest => readBasic? [] rest
  | '\'' :: rest => readLiteral? rest
  | _ => none

/-! ## Numbers -/

/-- Reads digits with single underscores between them, without the underscores. -/
def readGroups? (isDigit : Char → Bool) : List Char → Option (List Char × List Char)
  | [] => none
  | c :: '_' :: rest =>
    if isDigit c then (readGroups? isDigit rest).map fun (digits, after) => (c :: digits, after)
    else none
  | c :: rest =>
    if !isDigit c then none
    else if rest.head?.any isDigit then
      (readGroups? isDigit rest).map fun (digits, after) => (c :: digits, after)
    else some ([c], rest)

/-- Whether the digits have no leading zero, zero itself apart. -/
def isWhole : List Char → Bool
  | '0' :: _ :: _ => false
  | _ => true

/-- The integer with these digits, if it fits 64 bits. -/
def bounded? (n : Int) : Option Toml :=
  if Int64.minValue.toInt ≤ n ∧ n ≤ Int64.maxValue.toInt then some (.int n) else none

/-- Reads an integer in another base after its mark. -/
def readInBase? (base : Nat) (isDigit : Char → Bool) (cs : List Char) :
    Option (Toml × List Char) := do
  let (digits, rest) ← readGroups? isDigit cs
  let value := digits.foldl (fun n c => base * n + (Numeral.hexValue? c).getD 0) 0
  return (← bounded? value, rest)

/-- Reads the fraction of a float, if there is one. -/
def readFraction? (cs : List Char) : Option (Option (List Char) × List Char) :=
  match cs with
  | '.' :: rest => (readGroups? Char.isDigit rest).map fun (digits, rest) => (some digits, rest)
  | _ => some (none, cs)

/-- Reads the exponent of a float, if there is one, as it is written without underscores. -/
def readExponent? (cs : List Char) : Option (Option (List Char) × List Char) :=
  match cs with
  | c :: rest =>
    if c = 'e' ∨ c = 'E' then
      let (negative, rest) := Numeral.splitSign rest
      (readGroups? Char.isDigit rest).map fun (digits, rest) =>
        (some (if negative then '-' :: digits else digits), rest)
    else some (none, cs)
  | [] => some (none, [])

/-- A float, unless it is too large. -/
def float? (text : List Char) : Option Toml :=
  match Double.read? text with
  | some (.infinite false) => none
  | some _ => some .float
  | none => none

/-- Reads a decimal number after its sign. -/
def readDecimal? (negative : Bool) (cs : List Char) : Option (Toml × List Char) := do
  let (whole, rest) ← readGroups? Char.isDigit cs
  if !isWhole whole then none
  else
    let (fraction, rest) ← readFraction? rest
    let (exponent, rest) ← readExponent? rest
    let n : Nat := Nat.ofDigitChars 10 whole 0
    match fraction, exponent with
    | none, none => return (← bounded? (if negative then -(n : Int) else n), rest)
    | _, _ =>
      let mark := exponent.elim [] ('e' :: ·)
      let text := whole ++ '.' :: fraction.getD [] ++ mark
      return (← float? (if negative then '-' :: text else text), rest)

/-- Reads a number. -/
def readNumber? (cs : List Char) : Option (Toml × List Char) :=
  match cs with
  | '0' :: 'x' :: rest => readInBase? 16 (fun c => (Numeral.hexValue? c).isSome) rest
  | '0' :: 'o' :: rest => readInBase? 8 (fun c => '0' ≤ c && c ≤ '7') rest
  | '0' :: 'b' :: rest => readInBase? 2 (fun c => c = '0' || c = '1') rest
  | _ =>
    let (negative, rest) := Numeral.splitSign cs
    match rest with
    | 'i' :: 'n' :: 'f' :: rest => some (.float, rest)
    | 'n' :: 'a' :: 'n' :: rest => some (.float, rest)
    | _ => readDecimal? negative rest

/-! ## Dates and times -/

/-- The number that exactly these digits write, if it lies between the bounds. -/
def field? (least most : Nat) (digits : List Char) : Option Nat :=
  (Numeral.readDigits? digits).filter fun n => least ≤ n && n ≤ most

/-- The number of days of a month. -/
def monthDays (year month : Nat) : Nat :=
  if month = 2 then
    if year % 4 = 0 ∧ (year % 100 ≠ 0 ∨ year % 400 = 0) then 29 else 28
  else if month ∈ [4, 6, 9, 11] then 30
  else 31

/-- Takes a date off. -/
def afterDate? : List Char → Option (List Char)
  | y₁ :: y₂ :: y₃ :: y₄ :: '-' :: m₁ :: m₂ :: '-' :: d₁ :: d₂ :: rest => do
    let year ← field? 0 9999 [y₁, y₂, y₃, y₄]
    let month ← field? 1 12 [m₁, m₂]
    let _ ← field? 1 (monthDays year month) [d₁, d₂]
    return rest
  | _ => none

/-- Takes a fraction of a second off, if there is one. -/
def afterSecondFraction? : List Char → Option (List Char)
  | '.' :: d :: rest => if d.isDigit then some (rest.dropWhile Char.isDigit) else none
  | '.' :: [] => none
  | cs => some cs

/-- Takes a time off. -/
def afterTime? : List Char → Option (List Char)
  | h₁ :: h₂ :: ':' :: m₁ :: m₂ :: ':' :: s₁ :: s₂ :: rest => do
    let _ ← field? 0 23 [h₁, h₂]
    let _ ← field? 0 59 [m₁, m₂]
    let _ ← field? 0 60 [s₁, s₂]
    afterSecondFraction? rest
  | _ => none

/-- Takes the offset of a time zone off, if there is one. -/
def afterOffset? (cs : List Char) : Option (List Char) :=
  match cs with
  | [] => some []
  | c :: rest =>
    if c = 'Z' ∨ c = 'z' then some rest
    else if c = '+' ∨ c = '-' then
      match rest with
      | h₁ :: h₂ :: ':' :: m₁ :: m₂ :: rest => do
        let _ ← field? 0 23 [h₁, h₂]
        let _ ← field? 0 59 [m₁, m₂]
        return rest
      | _ => none
    else some cs

/-- Takes a date off, with a time and an offset if they follow. -/
def afterDateTime? (cs : List Char) : Option (List Char) := do
  let rest ← afterDate? cs
  match rest with
  | c :: more =>
    if c = 'T' ∨ c = 't' ∨ c = ' ' then
      match afterTime? more with
      | some rest => afterOffset? rest
      | none => return rest
    else return rest
  | [] => return rest

/-- Reads a value that starts with a digit or a sign: a date, a time or a number. -/
def readNumeric? (cs : List Char) : Option (Toml × List Char) :=
  match afterDateTime? cs with
  | some rest => some (.dateTime, rest)
  | none =>
    match afterTime? cs with
    | some rest => some (.dateTime, rest)
    | none => readNumber? cs

end WebRouting.Toml
