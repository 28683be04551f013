import WebRouting.Toml.Scalar

/-! # Reading TOML

A document is a sequence of lines: entries, headers and blank lines, each with a comment if one likes.
`Toml.read?` is `none` for a text that is no document, a key given twice included. -/

namespace WebRouting.Toml

/-! ## Keys -/

/-- A character of bare keys. -/
def isBareKeyChar (c : Char) : Bool := c.isAlphanum || c = '_' || c = '-'

/-- Reads one key: bare, or in quotes of one line. -/
def readSimpleKey? (cs : List Char) : Option (String × List Char) :=
  match cs with
  | '"' :: rest => readBasic? [] rest
  | '\'' :: rest => readLiteral? rest
  | _ =>
    let key := cs.takeWhile isBareKeyChar
    if key = [] then none else some (String.ofList key, cs.drop key.length)

/-- Reads keys with dots between them. Blanks are allowed around each. -/
def readKeys? (cs : List Char) : Option (List String × List Char) :=
  match readSimpleKey? (skip cs) with
  | none => none
  | some (key, rest) =>
    match skip rest with
    | '.' :: more =>
      if more.length < cs.length then
        (readKeys? more).map fun (keys, after) => (key :: keys, after)
      else none -- unreachable: what is left gets shorter
    | rest => some ([key], rest)
termination_by cs.length

/-- How deep keys, arrays and tables in braces may be nested. -/
def nestingLimit : Nat := 79

/-- Reads a path of keys: all but the last, and the last. -/
def readPath? (cs : List Char) : Option (List String × String × List Char) := do
  let (keys, rest) ← readKeys? cs
  let last ← keys.getLast?
  if keys.length ≤ nestingLimit then return (keys.dropLast, last, rest) else none

/-! ## Values -/

/-- Drops blanks, newlines and comments. -/
def skipLines (inComment : Bool) : List Char → List Char
  | [] => []
  | '\r' :: '\n' :: rest => skipLines false rest
  | c :: rest =>
    if c = '\n' then skipLines false rest
    else if inComment then if isText c then skipLines true rest else c :: rest
    else if isBlank c then skipLines false rest
    else if c = '#' then skipLines true rest
    else c :: rest

/-- Reads items up to the end of an array, given how a value is read. A comma may stand before the
end. -/
def readItems? (readValue? : List Char → Option (Toml × List Char)) (items : List Toml)
    (cs : List Char) : Option (Toml × List Char) :=
  match skipLines false cs with
  | ']' :: after => some (.array items.reverse, after)
  | rest =>
    match readValue? rest with
    | none => none
    | some (item, rest) =>
      match skipLines false rest with
      | ']' :: after => some (.array (item :: items).reverse, after)
      | ',' :: after =>
        if after.length < cs.length then readItems? readValue? (item :: items) after
        else none -- unreachable: what is left gets shorter
      | _ => none
termination_by cs.length

/-- Reads a path of keys, the equals sign and a value. -/
def readEntry? (readValue? : List Char → Option (Toml × List Char)) (cs : List Char) :
    Option ((List String × String × Toml) × List Char) := do
  let (path, key, rest) ← readPath? cs
  match rest with
  | '=' :: rest =>
    let (value, rest) ← readValue? (skip rest)
    return ((path, key, value), rest)
  | _ => none

/-- Reads entries up to the end of a table in braces, given how a value is read. -/
def readInline? (readValue? : List Char → Option (Toml × List Char)) (entries : Entries)
    (cs : List Char) : Option (Toml × List Char) :=
  match readEntry? readValue? cs with
  | none => none
  | some ((path, key, value), rest) =>
    match entries.addDotted? key value path with
    | none => none
    | some entries =>
      match skip rest with
      | '\x7d' :: after => some (.table (finishAll entries), after)
      | ',' :: after =>
        if after.length < cs.length then readInline? readValue? entries after
        else none -- unreachable: what is left gets shorter
      | _ => none
termination_by cs.length

/-- Reads a truth value. -/
def readBool? : List Char → Option (Toml × List Char)
  | 't' :: 'r' :: 'u' :: 'e' :: rest => some (.bool true, rest)
  | 'f' :: 'a' :: 'l' :: 's' :: 'e' :: rest => some (.bool false, rest)
  | _ => none

/-- Reads a value that is neither an array nor a table. -/
def readScalar? (cs : List Char) : Option (Toml × List Char) :=
  match cs.head? with
  | some '"' => (readString? cs).map fun (s, rest) => (.string s, rest)
  | some '\'' => (readString? cs).map fun (s, rest) => (.string s, rest)
  | some 't' => readBool? cs
  | some 'f' => readBool? cs
  | _ => readNumeric? cs

/-- Reads a value whose arrays and tables are nested at most `depth` deep. -/
def readValue? : (depth : Nat) → List Char → Option (Toml × List Char)
  | 0, cs => readScalar? cs
  | depth + 1, cs =>
    match cs with
    | '[' :: rest => readItems? (readValue? depth) [] rest
    | '\x7b' :: rest =>
      match skip rest with
      | '\x7d' :: after => some (.table [], after)
      | _ => readInline? (readValue? depth) [] rest
    | cs => readScalar? cs

/-! ## Lines -/

/-- Takes blanks, a comment and the end of the line off. -/
def afterLine? (cs : List Char) : Option (List Char) :=
  match skipComment (skip cs) with
  | [] => some []
  | rest => afterNewline? rest

/-- Reads a header after its first bracket. -/
def readHeader? (d : Document) (cs : List Char) : Option (Document × List Char) :=
  match cs with
  | '[' :: rest => do
    let (path, key, rest) ← readPath? rest
    match rest with
    | ']' :: ']' :: rest => return (← d.openHeader? true path key, rest)
    | _ => none
  | _ => do
    let (path, key, rest) ← readPath? cs
    match rest with
    | ']' :: rest => return (← d.openHeader? false path key, rest)
    | _ => none

/-- Reads one line that does not start with a blank. -/
def readLine? (d : Document) (cs : List Char) : Option (Document × List Char) :=
  match cs with
  | '[' :: rest => do
    let (d, rest) ← readHeader? d rest
    return (d, ← afterLine? rest)
  | c :: _ =>
    if c = '#' ∨ c = '\n' ∨ c = '\r' then (afterLine? cs).map (d, ·)
    else do
      let ((path, key, value), rest) ← readEntry? (readValue? nestingLimit) cs
      return (← d.add? path key value, ← afterLine? rest)
  | [] => some (d, [])

/-- Reads all lines. -/
def readDocument? (d : Document) (cs : List Char) : Option Document :=
  match skip cs with
  | [] => some d
  | line =>
    match readLine? d line with
    | none => none
    | some (d, rest) =>
      if rest.length < cs.length then readDocument? d rest
      else none -- unreachable: a line has at least one character
termination_by cs.length

/-- The table that a document is. A byte order mark may stand in front of it. -/
def read? (text : String) : Option Toml :=
  let cs := match text.toList with
    | '\uFEFF' :: rest => rest
    | cs => cs
  (readDocument? {} cs).map fun d => .table (finishAll d.entries)

end WebRouting.Toml
