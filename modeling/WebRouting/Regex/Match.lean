import Std.Data.ExtTreeMap
import Std.Data.ExtTreeSet
import WebRouting.Regex.Basic

/-! # Matching

`Regex.run` lists the places where an expression can end when it starts at a given place, the
preferred one first: the first branch before the second, more rounds of a greedy repetition before
fewer. Each end is listed once, with the captured groups of its preferred way, for what follows
depends on the end alone. A search takes the first start that has an end, and there the first end. -/

namespace WebRouting

/-- The text of a group: the start of what was ahead when the group began. -/
structure Capture where
  /-- What was ahead. -/
  ahead : List Char
  /-- How much of it belongs to the group. -/
  length : Nat

/-- The text of a group. -/
def Capture.text (c : Capture) : List Char := c.ahead.take c.length

/-- A place in a text and what has been captured on the way to it. -/
structure Cursor where
  /-- How many characters are before it. -/
  position : Nat
  /-- The character before it. -/
  previous : Option Char
  /-- What is after it. -/
  rest : List Char
  /-- The texts of the named groups, the latest first. -/
  captures : List (String × Capture) := []

namespace Cursor

/-- The place before a text. -/
def start (text : List Char) : Cursor := { position := 0, previous := none, rest := text }

/-- The place after one more character, if a class has it. -/
def advance? (c : Cursor) (allowed : CharClass) : Option Cursor :=
  match c.rest with
  | [] => none
  | x :: rest =>
    if allowed.contains x then
      some { c with position := c.position + 1, previous := some x, rest }
    else none

/-- Records as a group's text what is between two places. -/
def capture (first : Cursor) (name : Option String) (last : Cursor) : Cursor :=
  match name with
  | none => last
  | some name =>
    { last with captures := (name, ⟨first.rest, last.position - first.position⟩) :: last.captures }

end Cursor

/-! ## Assertions -/

/-- Whether a character belongs to words. -/
def Assertion.isWord (unicode : Bool) (c : Option Char) : Bool :=
  c.any (CharClass.word unicode).contains

/-- Whether the assertion holds between a character and what follows it. -/
def Assertion.holds (a : Assertion) (previous : Option Char) (rest : List Char) : Bool :=
  let next := rest.head?
  match a with
  | .textStart => previous.isNone
  | .textEnd => next.isNone
  | .lineStart false => previous.isNone || previous = some '\n'
  | .lineStart true =>
    previous.isNone || previous = some '\n' || (previous = some '\r' && next ≠ some '\n')
  | .lineEnd false => next.isNone || next = some '\n'
  | .lineEnd true =>
    next.isNone || next = some '\r' || (next = some '\n' && previous ≠ some '\r')
  | .wordBoundary u => isWord u previous != isWord u next
  | .noWordBoundary u => isWord u previous == isWord u next
  | .wordStart u => !isWord u previous && isWord u next
  | .wordEnd u => isWord u previous && !isWord u next
  | .wordStartHalf u => !isWord u previous
  | .wordEndHalf u => !isWord u next

namespace Regex

/-! ## Repetitions -/

/-- The first cursor of each place that is not among those seen. -/
def distinctFrom (seen : Std.ExtTreeSet Nat) : List Cursor → List Cursor
  | [] => []
  | c :: cs =>
    if seen.contains c.position then distinctFrom seen cs
    else c :: distinctFrom (seen.insert c.position) cs

/-- The first cursor of each place. -/
def distinct (cursors : List Cursor) : List Cursor := distinctFrom ∅ cursors

/-- The ends after exactly `n` rounds. -/
def rounds (step : Cursor → List Cursor) : Nat → List Cursor → List Cursor
  | 0, cursors => cursors
  | n + 1, cursors => rounds step n (distinct (cursors.flatMap step))

/-- What a repetition has found so far. -/
structure Found where
  /-- The places where a round may have started, with how many rounds were left. -/
  visited : Std.ExtTreeMap Nat (List Nat) := ∅
  /-- The ends, the latest first. -/
  ends : List Cursor := []

namespace Found

/-- Whether the cursor's place has been visited with so many rounds left. -/
def hasVisited (f : Found) (left : Nat) (c : Cursor) : Bool :=
  (f.visited.getD c.position []).contains left

/-- Records a visit. -/
def visit (f : Found) (left : Nat) (c : Cursor) : Found :=
  { f with visited := f.visited.alter c.position fun visits => left :: visits.getD [] }

/-- Records an end. -/
def stop (f : Found) (c : Cursor) : Found := { f with ends := c :: f.ends }

end Found

/-- Goes on from a place in one of two orders: a greedy repetition stops there last, a lazy one
first. -/
def goOn (greedy : Bool) (c : Cursor) (next : Found → Found) (f : Found) : Found :=
  if greedy then (next f).stop c else next (f.stop c)

/-- Adds the ends after any number of rounds more. The repetition started at place `first`. A round
that moves nowhere is not followed by another. The fuel bounds the number of rounds. -/
def moreRounds (step : Cursor → List Cursor) (greedy : Bool) (first : Nat) :
    (fuel : Nat) → Found → Cursor → Found
  | 0, f, _ => f
  | fuel + 1, f, c =>
    if f.hasVisited 0 c then f
    else
      let ahead :=
        if c.position = first then [] else (step c).filter (c.position < ·.position)
      goOn greedy c (ahead.foldl (moreRounds step greedy first fuel)) (f.visit 0 c)

/-- The ends after one round or more. -/
def onceOrMore (step : Cursor → List Cursor) (greedy : Bool) (c : Cursor) : List Cursor :=
  ((step c).foldl (moreRounds step greedy c.position (c.rest.length + 1)) {}).ends.reverse

/-- Adds the ends after at most `budget` rounds more. -/
def fewRounds (step : Cursor → List Cursor) (greedy : Bool) :
    (budget : Nat) → Found → Cursor → Found
  | 0, f, c => if f.hasVisited 0 c then f else (f.visit 0 c).stop c
  | budget + 1, f, c =>
    if f.hasVisited (budget + 1) c then f
    else goOn greedy c ((step c).foldl (fewRounds step greedy budget)) (f.visit (budget + 1) c)

/-- The ends after at most `budget` rounds. -/
def atMost (step : Cursor → List Cursor) (greedy : Bool) (budget : Nat) (c : Cursor) :
    List Cursor :=
  distinct (fewRounds step greedy budget {} c).ends.reverse

/-- The ends of a repetition. -/
def repeated (step : Cursor → List Cursor) (least : Nat) (most : Option Nat) (greedy : Bool)
    (c : Cursor) : List Cursor :=
  match most, least with
  | some most, _ => distinct ((rounds step least [c]).flatMap (atMost step greedy (most - least)))
  | none, 0 =>
    if greedy then distinct (onceOrMore step greedy c ++ [c])
    else distinct (c :: onceOrMore step greedy c)
  | none, n + 1 => distinct ((rounds step n [c]).flatMap (onceOrMore step greedy))

/-! ## Expressions -/

/-- The ends of an expression, the preferred one first. -/
def run : Regex → Cursor → List Cursor
  | empty, c => [c]
  | char allowed, c => (c.advance? allowed).toList
  | assert a, c => if a.holds c.previous c.rest then [c] else []
  | seq first second, c => distinct ((run first c).flatMap (run second))
  | alt first second, c => distinct (run first c ++ run second c)
  | rep body least most greedy, c => repeated (run body) least most greedy c
  | group name body, c => (run body c).map (c.capture name)

/-- The end of the preferred match at the first place from here on that has one. -/
def searchFrom (r : Regex) (position : Nat) (previous : Option Char) :
    List Char → Option Cursor
  | [] => (r.run { position, previous, rest := [] }).head?
  | x :: rest =>
    match (r.run { position, previous, rest := x :: rest }).head? with
    | some last => some last
    | none => searchFrom r (position + 1) (some x) rest

/-- The end of the preferred match in a text. -/
def search (r : Regex) (text : String) : Option Cursor := searchFrom r 0 none text.toList

/-- Whether the expression matches somewhere in a text. -/
def isMatch (r : Regex) (text : String) : Bool := (r.search text).isSome

end Regex

/-- The text of a named group: empty if the group took no part in the match. -/
def Cursor.captured (c : Cursor) (name : String) : String :=
  String.ofList (((c.captures.lookup name).map Capture.text).getD [])

end WebRouting
