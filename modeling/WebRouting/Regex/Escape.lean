import WebRouting.Number.Numeral
import WebRouting.Regex.Flags
import WebRouting.Text.Split

/-! # Escapes in patterns

A backslash before a character that means something makes it stand for itself; before a letter it
writes a character, a class of characters or an assertion. `escape` writes text as a pattern that
matches exactly it. -/

namespace WebRouting.Regex

/-! ## Writing -/

/-- The characters that mean something in some place of a pattern. -/
def specialCharacters : List Char :=
  ['\\', '.', '+', '*', '?', '(', ')', '|', '[', ']', '\x7b', '\x7d', '^', '$', '#', '&', '-', '~']

/-- Whether a backslash is needed, in some place, for the character to stand for itself. -/
def isSpecial (c : Char) : Bool := c ∈ specialCharacters

/-- The pattern of one character. -/
def escapeChar (c : Char) : List Char := if isSpecial c then ['\\', c] else [c]

/-- The pattern that matches exactly a text. -/
def escape (text : List Char) : List Char := text.flatMap escapeChar

@[simp] theorem escape_nil : escape [] = [] := rfl

@[simp] theorem escape_append (a b : List Char) : escape (a ++ b) = escape a ++ escape b := by
  simp [escape]

/-! ## Classes under flags -/

/-- The class closed under letter case, if the flags ask for it. -/
def foldCase (flags : Flags) (c : CharClass) : CharClass :=
  if flags.ignoreCase then if flags.unicode then .anyCase c else .anyAsciiCase c else c

/-- The complement of a class, if `negated`. Without Unicode a class must stay within ASCII, so it has
no complement. -/
def negate? (flags : Flags) (negated : Bool) (c : CharClass) : Option CharClass :=
  if negated then if flags.unicode then some (.compl c) else none else some c

/-! ## Reading -/

/-- What an escape stands for. -/
inductive Escape where
  /-- A character. -/
  | literal (c : Char)
  /-- A class of characters. -/
  | charClass (c : CharClass)
  /-- An assertion. -/
  | assertion (a : Assertion)

/-- The character with a code point written in hexadecimal. -/
def charOfHex? (digits : List Char) : Option Char :=
  (Numeral.readHex? digits).bind fun code =>
    if code.isValidChar then some (Char.ofNat code) else none

/-- Reads a code point in hexadecimal, of `width` digits or in braces. Without Unicode two digits stand
for a byte, which must be an ASCII character. -/
def readCodePoint? (flags : Flags) (width : Nat) (cs : List Char) : Option (Char × List Char) := do
  let (c, rest) ← next? flags cs
  if c = '\x7b' then
    let (digits, after) ← readBraced? flags rest
    return (← charOfHex? digits, after)
  else
    let (digits, after) ← readExactly? flags width cs
    let character ← charOfHex? digits
    if width = 2 ∧ !flags.unicode ∧ 0x7F < character.toNat then none
    else return (character, after)

/-- Splits at the first `!=`. -/
def cutUnequal? : List Char → Option (List Char × List Char)
  | '!' :: '=' :: cs => some ([], cs)
  | [] => none
  | c :: cs => (cutUnequal? cs).map fun (before, after) => (c :: before, after)

/-- The property that stands in braces, and whether it is written as an inequality. -/
def propertyOf? (body : List Char) : Option (CharProperty × Bool) :=
  match cutUnequal? body with
  | some (name, value) => (CharClass.propertyWithValue? name value).map (·, true)
  | none =>
    match (Text.cut? ':' body).or (Text.cut? '=' body) with
    | some (name, value) => (CharClass.propertyWithValue? name value).map (·, false)
    | none => (CharClass.namedProperty? body).map (·, false)

/-- Reads a property: one letter, or a name in braces. -/
def readProperty? (flags : Flags) (negated : Bool) (cs : List Char) :
    Option (CharClass × List Char) := do
  let (c, rest) ← next? flags cs
  let (body, after) ← if c = '\x7b' then readBraced? flags rest else some ([c], rest)
  let (p, unequal) ← propertyOf? body
  if !flags.unicode then none
  else return (← negate? flags (negated != unequal) (foldCase flags (.property p)), after)

/-- A character that may stand in the name of a boundary. -/
def isBoundaryChar (c : Char) : Bool := c.isAlpha || c = '-'

/-- The boundary that a name in braces stands for. -/
def namedBoundary? (unicode : Bool) (name : List Char) : Option Assertion :=
  if name = "start".toList then some (.wordStart unicode)
  else if name = "end".toList then some (.wordEnd unicode)
  else if name = "start-half".toList then some (.wordStartHalf unicode)
  else if name = "end-half".toList then some (.wordEndHalf unicode)
  else none

/-- Reads what follows the escape of a word boundary. Braces that start with a letter or a hyphen name
a special boundary; any others belong to a repetition. -/
def readBoundary? (flags : Flags) (cs : List Char) : Option (Assertion × List Char) :=
  match cs with
  | '\x7b' :: rest =>
    match next? flags rest with
    | some (c, _) =>
      if isBoundaryChar c then do
        let (name, after) ← readBraced? flags rest
        return (← namedBoundary? flags.unicode name, after)
      else some (.wordBoundary flags.unicode, cs)
    | none => none
  | _ => some (.wordBoundary flags.unicode, cs)

/-- The character that a letter after a backslash writes. -/
def controlCharacter? : Char → Option Char
  | 'a' => some '\x07'
  | 'f' => some '\x0c'
  | 't' => some '\t'
  | 'n' => some '\n'
  | 'r' => some '\r'
  | 'v' => some '\x0b'
  | _ => none

/-- A character that a backslash makes stand for itself: ASCII, neither a letter nor a digit nor an
angle bracket. -/
def isEscapable (c : Char) : Bool :=
  isSpecial c || (c.toNat < 128 && !c.isAlphanum && c ≠ '<' && c ≠ '>')

/-- Reads what follows a backslash. -/
def readEscape? (flags : Flags) : List Char → Option (Escape × List Char)
  | [] => none
  | c :: cs =>
    let named (negated : Bool) (cls : CharClass) : Option (Escape × List Char) :=
      (negate? flags negated cls).map fun cls => (.charClass cls, cs)
    match c with
    | 'd' => named false (.digit flags.unicode)
    | 'D' => named true (.digit flags.unicode)
    | 's' => named false (.space flags.unicode)
    | 'S' => named true (.space flags.unicode)
    | 'w' => named false (.word flags.unicode)
    | 'W' => named true (.word flags.unicode)
    | 'p' => (readProperty? flags false cs).map fun (cls, rest) => (.charClass cls, rest)
    | 'P' => (readProperty? flags true cs).map fun (cls, rest) => (.charClass cls, rest)
    | 'x' => (readCodePoint? flags 2 cs).map fun (c, rest) => (.literal c, rest)
    | 'u' => (readCodePoint? flags 4 cs).map fun (c, rest) => (.literal c, rest)
    | 'U' => (readCodePoint? flags 8 cs).map fun (c, rest) => (.literal c, rest)
    | 'A' => some (.assertion .textStart, cs)
    | 'z' => some (.assertion .textEnd, cs)
    | 'b' => (readBoundary? flags cs).map fun (a, rest) => (.assertion a, rest)
    | 'B' => some (.assertion (.noWordBoundary flags.unicode), cs)
    | '<' => some (.assertion (.wordStart flags.unicode), cs)
    | '>' => some (.assertion (.wordEnd flags.unicode), cs)
    | _ =>
      if isEscapable c then some (.literal c, cs)
      else (controlCharacter? c).map fun c => (.literal c, cs)

end WebRouting.Regex
