import WebRouting.Regex.CharClass

/-! # Regular expressions

The syntax trees of regular expressions. Flags have been resolved into the trees, so a tree means the
same wherever it stands. -/

namespace WebRouting

/-- A condition on the place between two characters. -/
inductive Assertion where
  /-- The start of the text. -/
  | textStart
  /-- The end of the text. -/
  | textEnd
  /-- The start of a line. With `crlf` a carriage return ends lines too. -/
  | lineStart (crlf : Bool)
  /-- The end of a line. With `crlf` a carriage return ends lines too. -/
  | lineEnd (crlf : Bool)
  /-- A word starts or ends here. -/
  | wordBoundary (unicode : Bool)
  /-- No word starts or ends here. -/
  | noWordBoundary (unicode : Bool)
  /-- A word starts here. -/
  | wordStart (unicode : Bool)
  /-- A word ends here. -/
  | wordEnd (unicode : Bool)
  /-- No character of a word stands before. -/
  | wordStartHalf (unicode : Bool)
  /-- No character of a word stands after. -/
  | wordEndHalf (unicode : Bool)
deriving DecidableEq

/-- A regular expression. -/
inductive Regex where
  /-- Nothing. -/
  | empty
  /-- One character of a class. -/
  | char (allowed : CharClass)
  /-- Nothing, where a condition holds. -/
  | assert (a : Assertion)
  /-- One expression after another. -/
  | seq (first second : Regex)
  /-- Either expression, the first one preferred. -/
  | alt (first second : Regex)
  /-- An expression `least` times or more, up to `most` times if that is given. A greedy repetition
  prefers more rounds. -/
  | rep (body : Regex) (least : Nat) (most : Option Nat) (greedy : Bool)
  /-- An expression whose text is kept, under a name if it has one. -/
  | group (name : Option String) (body : Regex)

namespace Regex

/-- The expressions one after another, the last one first in the list. -/
def seqReversed (items : List Regex) : Regex := items.foldr (fun r before => seq before r) empty

/-- The branches in order of preference, `last` after those in the list, the latest of which comes
first. -/
def altReversed (branches : List Regex) (last : Regex) : Regex :=
  branches.foldl (fun later r => alt r later) last

/-- How deep an expression with parts is nested, given how deep the parts are. One part is no deeper than
it is by itself. -/
def depthOf : List Nat → Nat
  | [] => 0
  | [depth] => depth
  | depths => depths.foldr max 0 + 1

end Regex

end WebRouting
