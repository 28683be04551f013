import WebRouting.Regex.Bracket
import WebRouting.Regex.Size

/-! # Reading patterns

A pattern is read from left to right, token by token, into the levels of its open groups.
`Regex.parse?` is `none` for a pattern that means nothing: an unclosed group or bracket, a repetition
of nothing, an unknown escape or flag, or a group name used twice. Expressions that look ahead or behind
or refer back to a group do not exist. `Regex.read?` refuses patterns that are nested too deep or mean
something too large as well. -/

namespace WebRouting.Regex

/-! ## Tokens -/

/-- A token of a pattern. The flags in force have been resolved in it. -/
inductive Token where
  /-- An expression that is complete by itself, and how deep its brackets are nested. -/
  | atom (r : Regex) (depth : Nat)
  /-- How often the expression before it is repeated. -/
  | quantifier (least : Nat) (most : Option Nat) (greedy : Bool)
  /-- The start of a group whose text is kept. -/
  | capture (name : Option String)
  /-- The start of a group whose text is not kept, and the flags in it. -/
  | group (flags : Flags)
  /-- A change of flags for the rest of the group. -/
  | setFlags (flags : Flags)
  /-- The end of a group. -/
  | groupEnd
  /-- The bar between two branches. -/
  | bar

/-- A character that may start the name of a group. -/
def isNameStart (c : Char) : Bool := c = '_' || Unicode.isAlphabetic c

/-- A character that may stand in the name of a group. -/
def isNameChar (c : Char) : Bool :=
  c = '_' || c = '.' || c = '[' || c = ']' || Unicode.isAlphanumeric c

/-- Whether the characters form the name of a group. -/
def isGroupName : List Char → Bool
  | [] => false
  | c :: cs => isNameStart c && cs.all isNameChar

/-- Reads the name of a group up to the angle bracket that closes it. -/
def readGroupName? (cs : List Char) : Option (Token × List Char) :=
  match Text.cut? '>' cs with
  | some (name, rest) =>
    if isGroupName name then some (.capture (some (String.ofList name)), rest) else none
  | none => none

/-- Reads what follows the parenthesis that opens a group. -/
def readGroupStart? (flags : Flags) (cs : List Char) : Option (Token × List Char) :=
  match skip flags cs with
  | '?' :: '<' :: '=' :: _ => none
  | '?' :: '<' :: '!' :: _ => none
  | '?' :: '<' :: rest => readGroupName? rest
  | '?' :: 'P' :: '<' :: rest => readGroupName? rest
  | '?' :: rest =>
    (readFlags? { flags } rest).map fun (flags, opens, rest) =>
      (if opens then .group flags else .setFlags flags, rest)
  | rest => some (.capture none, rest)

/-- A quantifier with the mark that makes it lazy, if that follows. -/
def markLazy (flags : Flags) (least : Nat) (most : Option Nat) : List Char → Token × List Char
  | '?' :: cs => (.quantifier least most flags.swapGreed, cs)
  | cs => (.quantifier least most (!flags.swapGreed), cs)

/-- A count of repetitions, with blanks around it. -/
def readCount? (cs : List Char) : Option Nat :=
  (Numeral.readDigits? (Text.trim Unicode.isBlank cs)).filter (· < UInt32.size)

/-- The bounds that stand in the braces of a counted repetition: one count, a least one, or a least and a
greatest one. -/
def readBounds? (body : List Char) : Option (Nat × Option Nat) :=
  match Text.cut? ',' body with
  | none => (readCount? body).map fun n => (n, some n)
  | some (first, []) => (readCount? first).map fun least => (least, none)
  | some (first, second) => do
    let least ← readCount? first
    let most ← readCount? second
    if least ≤ most then return (least, some most) else none

/-- Reads a counted repetition whose opening brace has been read. -/
def readCounted? (flags : Flags) (cs : List Char) : Option (Token × List Char) := do
  let (body, rest) ← readBraced? flags cs
  let (least, most) ← readBounds? body
  return markLazy flags least most (skip flags rest)

/-- The class of a dot. -/
def dot (flags : Flags) : CharClass :=
  .compl (if flags.dotAll then .empty
    else if flags.crlf then .union (.single '\r') (.single '\n') else .single '\n')

/-- The expression of a character that stands for itself. -/
def literal (flags : Flags) (c : Char) : Regex := .char (foldCase flags (.single c))

/-- Reads the token that starts with a given character. Without Unicode a dot would not stay within
ASCII, so there is none. -/
def readToken? (flags : Flags) (c : Char) (cs : List Char) : Option (Token × List Char) :=
  match c with
  | '(' => readGroupStart? flags cs
  | ')' => some (.groupEnd, cs)
  | '|' => some (.bar, cs)
  | '[' => (readBracket? flags cs).map fun ((cls, depth), rest) => (.atom (.char cls) depth, rest)
  | '?' => some (markLazy flags 0 (some 1) cs)
  | '*' => some (markLazy flags 0 none cs)
  | '+' => some (markLazy flags 1 none cs)
  | '\x7b' => readCounted? flags cs
  | '.' => if flags.unicode then some (.atom (.char (dot flags)) 0, cs) else none
  | '^' => some (.atom (.assert (if flags.multiLine then .lineStart flags.crlf else .textStart)) 0, cs)
  | '$' => some (.atom (.assert (if flags.multiLine then .lineEnd flags.crlf else .textEnd)) 0, cs)
  | '\\' =>
    (readEscape? flags cs).map fun (escape, rest) =>
      match escape with
      | .literal c => (.atom (literal flags c) 0, rest)
      | .charClass cls => (.atom (.char cls) 0, rest)
      | .assertion a => (.atom (.assert a) 0, rest)
  | _ => some (.atom (literal flags c) 0, cs)

/-! ## Levels -/

/-- What has been read of a group. -/
structure Level where
  /-- The finished branches, the latest first. -/
  branches : List Regex := []
  /-- The items of the branch being read, the latest first. -/
  items : List Regex := []
  /-- Whether a quantifier may come next. -/
  repeatable : Bool := false
  /-- How deep the finished branches are nested, the latest first. -/
  branchDepths : List Nat := []
  /-- How deep the items of the branch are nested, changes of flags among them, the latest first. -/
  depths : List Nat := []

namespace Level

/-- The expression of a finished group. -/
def value (l : Level) : Regex := altReversed l.branches (seqReversed l.items)

/-- How deep the content of a finished group is nested. -/
def depth (l : Level) : Nat := depthOf (depthOf l.depths :: l.branchDepths)

/-- Adds an item to the branch. -/
def add (l : Level) (r : Regex) (depth : Nat) : Level :=
  { l with items := r :: l.items, repeatable := true, depths := depth :: l.depths }

/-- Adds a change of flags, which cannot be repeated. -/
def addFlags (l : Level) : Level := { l with repeatable := false, depths := 0 :: l.depths }

/-- Starts another branch. -/
def branch (l : Level) : Level where
  branches := seqReversed l.items :: l.branches
  branchDepths := depthOf l.depths :: l.branchDepths

/-- Repeats the last item, if there is one to be repeated. -/
def quantify? (l : Level) (least : Nat) (most : Option Nat) (greedy : Bool) : Option Level :=
  match l.repeatable, l.items with
  | true, r :: items =>
    some { l with items := .rep r least most greedy :: items, depths := l.depths.modifyHead (· + 1) }
  | _, _ => none

end Level

/-- A group that is being read. -/
structure OpenGroup where
  /-- What was read before it on its own level. -/
  level : Level
  /-- The flags in force around it. -/
  flags : Flags
  /-- Whether its text is kept. -/
  captures : Bool
  /-- Its name. -/
  name : Option String

/-- The expression of a group, given that of its content. -/
def OpenGroup.close (g : OpenGroup) (content : Regex) : Regex :=
  if g.captures then .group g.name content else content

/-- The level around a group that has been read. -/
def OpenGroup.around (g : OpenGroup) (content : Level) : Level :=
  g.level.add (g.close content.value) (content.depth + 1)

/-- A state of reading. -/
structure Reading where
  /-- The flags in force. -/
  flags : Flags := {}
  /-- The level being read. -/
  level : Level := {}
  /-- The groups around it, the innermost first. -/
  outer : List OpenGroup := []
  /-- The names of groups so far. -/
  names : List String := []

namespace Reading

/-- Opens a group. -/
def openGroup (r : Reading) (flags : Flags) (captures : Bool) (name : Option String) : Reading :=
  { r with flags, level := {}, outer := ⟨r.level, r.flags, captures, name⟩ :: r.outer }

/-- Takes a token. -/
def take? (r : Reading) : Token → Option Reading
  | .atom a depth => some { r with level := r.level.add a depth }
  | .quantifier least most greedy =>
    (r.level.quantify? least most greedy).map fun level => { r with level }
  | .capture none => some (r.openGroup r.flags true none)
  | .capture (some name) =>
    if name ∈ r.names then none
    else some { r.openGroup r.flags true (some name) with names := name :: r.names }
  | .group flags => some (r.openGroup flags false none)
  | .setFlags flags => some { r with flags, level := r.level.addFlags }
  | .groupEnd =>
    match r.outer with
    | [] => none
    | g :: outer => some { r with level := g.around r.level, flags := g.flags, outer }
  | .bar => some { r with level := r.level.branch }

/-- The expression read, if every group has been closed. -/
def finish? (r : Reading) : Option Regex :=
  if r.outer.isEmpty then some r.level.value else none

/-- Reads on to the end of the pattern. -/
def run? (r : Reading) (cs : List Char) : Option Reading :=
  match next? r.flags cs with
  | none => some r
  | some (c, more) =>
    match readToken? r.flags c more with
    | none => none
    | some (token, rest) =>
      if rest.length < cs.length then
        match r.take? token with
        | none => none
        | some r => run? r rest
      else none -- unreachable: a token has at least one character
termination_by cs.length
decreasing_by assumption

end Reading

/-- The expression that a pattern means, of any size and nested as deep as it is. -/
def parse? (pattern : List Char) : Option Regex :=
  (Reading.run? {} pattern).bind Reading.finish?

/-- How deep the groups, repetitions, sequences, branches and brackets of a pattern are nested, if it can
be read. -/
def nesting (pattern : List Char) : Nat := ((Reading.run? {} pattern).map (·.level.depth)).getD 0

/-- How deep a pattern that is accepted may be nested. -/
def nestingLimit : Nat := 250

/-- The expression that a pattern means, unless the pattern is nested too deep or the expression is too
large. -/
def read? (pattern : List Char) : Option Regex :=
  (parse? pattern).filter fun r => nesting pattern ≤ nestingLimit && r.size ≤ sizeLimit

end WebRouting.Regex
