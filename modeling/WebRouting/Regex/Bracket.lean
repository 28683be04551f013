import WebRouting.Regex.Escape

/-! # Bracketed classes in patterns

A class in brackets lists characters, ranges, escapes, named classes and further brackets. Between two
lists an operation may stand: the intersection, the difference or the symmetric difference of what is
on its left and the list on its right. `readBracket?` reads a class whose opening bracket has been
read, and tells how deep its brackets, lists and operations are nested. -/

namespace WebRouting.Regex

/-- An operation between two lists of a class. -/
inductive ClassOperation where
  /-- The characters in both. -/
  | inter
  /-- The characters in the left one only. -/
  | diff
  /-- The characters in one only. -/
  | symmDiff
deriving DecidableEq

/-- The result of an operation. -/
def ClassOperation.apply : ClassOperation → CharClass → CharClass → CharClass
  | .inter => .inter
  | .diff => .diff
  | .symmDiff => .symmDiff

/-- A bracket that is being read. -/
structure Bracket where
  /-- Whether the class is the complement of what is listed. -/
  negated : Bool
  /-- The list since the last operation. -/
  listed : CharClass
  /-- The last operation and what is on its left. -/
  pending : Option (ClassOperation × CharClass) := none
  /-- How deep the members of the list are nested, the latest first. -/
  depths : List Nat := []
  /-- How deep what is on the left of the last operation is nested. -/
  leftDepth : Nat := 0

namespace Bracket

/-- Lists more characters, given how deep their brackets are nested. -/
def add (b : Bracket) (c : CharClass) (depth : Nat) : Bracket :=
  { b with listed := .union b.listed c, depths := depth :: b.depths }

/-- The characters listed, with the last operation carried out. -/
def value (flags : Flags) (b : Bracket) : CharClass :=
  match b.pending with
  | none => b.listed
  | some (operation, left) => operation.apply (foldCase flags left) (foldCase flags b.listed)

/-- How deep the content of the bracket is nested. -/
def depth (b : Bracket) : Nat :=
  if b.pending.isSome then max b.leftDepth (depthOf b.depths) + 1 else depthOf b.depths

/-- Takes what has been read as the left side of an operation. -/
def operate (flags : Flags) (b : Bracket) (operation : ClassOperation) : Bracket where
  negated := b.negated
  listed := .empty
  pending := some (operation, b.value flags)
  leftDepth := b.depth

/-- The class that the bracket stands for. -/
def close? (flags : Flags) (b : Bracket) : Option CharClass :=
  negate? flags b.negated (foldCase flags (b.value flags))

end Bracket

/-! ## Parts of a bracket -/

/-- Counts hyphens, each of which stands for itself at the start of a list, on top of a given number. -/
def readHyphens (flags : Flags) (count : Nat) (cs : List Char) : Nat × List Char :=
  match h : next? flags cs with
  | some ('-', rest) =>
    have : rest.length < cs.length := length_lt_of_next? h
    readHyphens flags (count + 1) rest
  | _ => (count, cs)
termination_by cs.length

/-- Reads the start of a list: hyphens at its start and a closing bracket in the first place stand for
themselves. -/
def startList (flags : Flags) (negated : Bool) (cs : List Char) : Bracket × List Char :=
  match readHyphens flags 0 cs with
  | (count + 1, rest) =>
    ({ negated, listed := .single '-', depths := List.replicate (count + 1) 0 }, rest)
  | (0, rest) =>
    match next? flags rest with
    | some (']', rest) => ({ negated, listed := .single ']', depths := [0] }, rest)
    | _ => ({ negated, listed := .empty }, rest)

/-- Reads the start of a bracket, which a caret negates. -/
def startBracket (flags : Flags) (cs : List Char) : Bracket × List Char :=
  match next? flags cs with
  | some ('^', rest) => startList flags true rest
  | _ => startList flags false cs

/-- Reads the name of an ASCII class and the colon and the bracket that close it. -/
def readPosixName? (cs : List Char) : Option (CharClass × List Char) :=
  match Text.cut? ':' cs with
  | some (name, ']' :: rest) => (CharClass.posix.lookup (String.ofList name)).map (·, rest)
  | _ => none

/-- Reads an ASCII class after its opening bracket. Anything else is no class. -/
def readPosix? (flags : Flags) : List Char → Option (Option CharClass × List Char)
  | ':' :: '^' :: cs =>
    (readPosixName? cs).map fun (c, rest) => (negate? flags true (foldCase flags c), rest)
  | ':' :: cs =>
    (readPosixName? cs).map fun (c, rest) => (negate? flags false (foldCase flags c), rest)
  | _ => none

/-- Reads an operation, whose first character is given. -/
def readOperation? : Char → List Char → Option (ClassOperation × List Char)
  | '&', '&' :: cs => some (.inter, cs)
  | '-', '-' :: cs => some (.diff, cs)
  | '~', '~' :: cs => some (.symmDiff, cs)
  | _, _ => none

/-- A member of a list: a character, which may start a range, or a class. -/
inductive ClassItem where
  /-- A character. -/
  | literal (c : Char)
  /-- A class. -/
  | charClass (c : CharClass)

/-- Whether a class may list the character itself: without Unicode it must be ASCII. -/
def isListable (flags : Flags) (c : Char) : Bool := flags.unicode || c.toNat < 128

/-- Reads a member, whose first character is given. No assertion can be a member. -/
def readItem? (flags : Flags) (c : Char) (cs : List Char) : Option (ClassItem × List Char) :=
  if c = '\\' then
    match readEscape? flags cs with
    | some (.literal c, rest) => if isListable flags c then some (.literal c, rest) else none
    | some (.charClass c, rest) => some (.charClass c, rest)
    | _ => none
  else if isListable flags c then some (.literal c, cs) else none

/-- The end of a range, if a range goes on here: after a hyphen that neither ends the list nor starts an
operation. -/
def rangeEnd? (flags : Flags) (cs : List Char) : Option (List Char) :=
  match next? flags cs with
  | some ('-', rest) =>
    match next? flags rest with
    | some (']', _) => none
    | some ('-', _) => none
    | _ => some rest
  | _ => none

/-- Reads a member or a range, whose first character is given. -/
def readMember? (flags : Flags) (c : Char) (cs : List Char) : Option (CharClass × List Char) := do
  let (item, rest) ← readItem? flags c cs
  match rangeEnd? flags rest with
  | none =>
    match item with
    | .literal c => return (.single c, rest)
    | .charClass c => return (c, rest)
  | some afterHyphen =>
    let (c, more) ← next? flags afterHyphen
    match item, ← readItem? flags c more with
    | .literal first, (.literal last, after) =>
      if first ≤ last then return (.range first last, after) else none
    | _, _ => none

/-! ## Brackets -/

/-- A part of a bracket. -/
inductive BracketPart where
  /-- Characters. -/
  | member (c : CharClass)
  /-- A bracket inside. -/
  | bracket (b : Bracket)
  /-- An operation. -/
  | operation (o : ClassOperation)
  /-- The end of the bracket. -/
  | close

/-- Reads the next part of a bracket. -/
def readBracketPart? (flags : Flags) (cs : List Char) : Option (BracketPart × List Char) := do
  let (c, rest) ← next? flags cs
  if c = ']' then return (.close, rest)
  else if c = '[' then
    match readPosix? flags rest with
    | some (cls, after) => return (.member (← cls), after)
    | none =>
      let (inner, after) := startBracket flags rest
      return (.bracket inner, after)
  else
    match readOperation? c rest with
    | some (operation, after) => return (.operation operation, after)
    | none =>
      let (member, after) ← readMember? flags c rest
      return (.member member, after)

/-- Reads the rest of a bracket inside others, the innermost first. The class comes with how deep it is
nested. -/
def readBracketFrom? (flags : Flags) (b : Bracket) (outer : List Bracket) (cs : List Char) :
    Option ((CharClass × Nat) × List Char) :=
  match readBracketPart? flags cs with
  | none => none
  | some (part, rest) =>
    if rest.length < cs.length then
      match part with
      | .member c => readBracketFrom? flags (b.add c 0) outer rest
      | .bracket inner => readBracketFrom? flags inner (b :: outer) rest
      | .operation operation => readBracketFrom? flags (b.operate flags operation) outer rest
      | .close =>
        match b.close? flags, outer with
        | none, _ => none
        | some c, [] => some ((c, b.depth + 1), rest)
        | some c, parent :: outer => readBracketFrom? flags (parent.add c (b.depth + 1)) outer rest
    else none -- unreachable: a part has at least one character
termination_by cs.length
decreasing_by all_goals assumption

/-- Reads a class whose opening bracket has been read. -/
def readBracket? (flags : Flags) (cs : List Char) : Option ((CharClass × Nat) × List Char) :=
  let (b, rest) := startBracket flags cs
  readBracketFrom? flags b [] rest

end WebRouting.Regex
