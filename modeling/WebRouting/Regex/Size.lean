import WebRouting.Regex.Basic

/-! # Sizes of expressions

An expression is carried out as an automaton that reads a text backwards, byte by byte. Its size is that
of the automaton, in bytes of memory. Most of it is due to classes of characters beyond ASCII: a class is
split into sequences of ranges of bytes, each of which takes a state for every byte that it does not
share with the sequence before it. -/

namespace WebRouting

namespace CharClass

/-- The code points of the class. -/
def ranges : CharClass → Ranges
  | range first last => [(first.toNat, last.toNat)]
  | property p => .diff p.included p.excluded
  | union a b => a.ranges ++ b.ranges
  | inter a b => .inter a.ranges b.ranges
  | diff a b => .diff a.ranges b.ranges
  | symmDiff a b => .symmDiff a.ranges b.ranges
  | compl a => .compl a.ranges
  | anyCase a => Unicode.closure Unicode.foldRuns a.ranges
  | anyAsciiCase a => Unicode.closure Unicode.asciiFoldRuns a.ranges

end CharClass

namespace Regex

/-! ## Sequences of bytes -/

/-- Ranges of bytes, for the first byte of a character and for those behind it. -/
abbrev ByteRanges : Type := List (Nat × Nat)

/-- A form in which UTF-8 writes code points. -/
structure ByteForm where
  /-- The first code point with the form. -/
  first : Nat
  /-- The last code point with the form. -/
  last : Nat
  /-- What marks the first byte. -/
  mark : Nat
  /-- How many bytes are behind the first one. -/
  tails : Nat

/-- The forms of UTF-8. No character has a code point between the third and the fourth. -/
def byteForms : List ByteForm :=
  [⟨0, 0x7F, 0, 0⟩, ⟨0x80, 0x7FF, 0xC0, 1⟩, ⟨0x800, 0xD7FF, 0xE0, 2⟩, ⟨0xE000, 0xFFFF, 0xE0, 2⟩,
   ⟨0x10000, 0x10FFFF, 0xF0, 3⟩]

/-- The mark of a byte behind the first one. -/
def tailMark : Nat := 0x80

/-- How many code points can be written by bytes behind the first one. -/
def blockSize : (tails : Nat) → Nat
  | 0 => 1
  | tails + 1 => 64 * blockSize tails

/-- The sequences for the code points from `first` to `last`, given the mark of the first byte and how
many bytes are behind it. -/
def byteSequences (mark : Nat) : (tails first last : Nat) → List ByteRanges
  | 0, first, last => [[(mark + first, mark + last)]]
  | tails + 1, first, last =>
    let block := blockSize (tails + 1)
    let behind (lead first last : Nat) : List ByteRanges :=
      (byteSequences tailMark tails first last).map ((mark + lead, mark + lead) :: ·)
    let lead := first / block
    let lastLead := last / block
    if lead = lastLead then behind lead (first % block) (last % block)
    else
      -- the first and the last block may be taken in part, and those between them are whole
      let startsBlock := first % block = 0
      let endsBlock := last % block = block - 1
      let whole := if startsBlock then lead else lead + 1
      let wholeEnd := if endsBlock then lastLead + 1 else lastLead
      (if startsBlock then [] else behind lead (first % block) (block - 1)) ++
        (if whole < wholeEnd then
          [(mark + whole, mark + wholeEnd - 1) ::
            List.replicate (tails + 1) (tailMark, tailMark + 63)]
          else []) ++
        (if endsBlock then [] else behind lastLead 0 (last % block))

/-- The sequences for the code points from `first` to `last`, form by form. -/
def encodings (first last : Nat) : List ByteRanges :=
  byteForms.flatMap fun form =>
    let first := max first form.first
    let last := min last form.last
    if first ≤ last then byteSequences form.mark form.tails first last else []

/-- How far two sequences are the same. -/
def shared : ByteRanges → ByteRanges → Nat
  | a :: as, b :: bs => if a = b then shared as bs + 1 else 0
  | _, _ => 0

/-- How many states sequences take behind another one. -/
def states (before : ByteRanges) : List ByteRanges → Nat
  | [] => 0
  | sequence :: sequences => sequence.length - shared before sequence + states sequence sequences

/-! ## Sizes -/

/-- The size of a state. -/
def stateSize : Nat := 32

/-- The size of a state with two continuations. -/
def forkSize : Nat := stateSize + 2 * 4

/-- The size of a class whose ranges are given in order. Up to the end of ASCII one state is enough for
all of them, each of which adds a little to it. -/
def rangesSize (ranges : Ranges) : Nat :=
  let sequences := ranges.flatMap fun (first, last) => encodings first last
  match ranges with
  | [] => stateSize
  | (first, last) :: more =>
    if first = last ∧ more = [] then stateSize * states [] sequences
    else if ranges.all (·.2 < 128) then 2 * stateSize + 8 * ranges.length
    else stateSize * (states [] sequences + 2) + 4 * sequences.length

/-- Whether the expression passes over no character wherever it matches. -/
def passesNothing : Regex → Bool
  | empty => true
  | char _ => false
  | assert _ => true
  | seq a b => a.passesNothing && b.passesNothing
  | alt a b => a.passesNothing && b.passesNothing
  | rep body least most _ => body.passesNothing || (least = 0 && most = some 0)
  | group _ body => body.passesNothing

/-- The size of a repetition, given the size of its body: the body is written out as often as it may be
repeated, with a fork before each repetition that may be left out. -/
def repeatedSize (body least : Nat) : (most : Option Nat) → Nat
  | none => body * max 1 least + 2 * forkSize + stateSize
  | some most =>
    body * most + if least < most then forkSize * (most - least) + stateSize else 0

/-- The size of the expression. What passes over nothing is never repeated. -/
def size : Regex → Nat
  | empty => 0
  | char allowed => rangesSize allowed.ranges.ordered
  | assert _ => stateSize
  | seq a b => a.size + b.size
  | alt a b => a.size + b.size + forkSize + stateSize
  | rep body least most _ =>
    if body.passesNothing then repeatedSize body.size (min 1 least) (some (min 1 (most.getD 1)))
    else repeatedSize body.size least most
  | group _ body => body.size + 2 * stateSize

/-- The greatest size of an expression that is accepted. -/
def sizeLimit : Nat := 10 * 1024 * 1024

end Regex

end WebRouting
