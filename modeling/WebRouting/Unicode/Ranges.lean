/-! # Sets of characters as ranges

A table of a character property is a list of inclusive ranges of code points, in any order. Members are
looked up in the table as it is; what sets have in common is counted in ranges that are in order and
apart (`Ranges.ordered`). -/

namespace WebRouting

/-- Inclusive ranges of code points. -/
abbrev Ranges : Type := List (Nat × Nat)

namespace Ranges

/-- Whether the code point lies in one of the ranges. -/
def covers (r : Ranges) (code : Nat) : Bool :=
  r.any fun (first, last) => first ≤ code && code ≤ last

/-- Whether the character lies in one of the ranges. -/
def contains (r : Ranges) (c : Char) : Bool :=
  r.covers c.toNat

@[simp] theorem covers_nil (code : Nat) : covers [] code = false := rfl

@[simp] theorem covers_cons (first last code : Nat) (r : Ranges) :
    covers ((first, last) :: r) code = ((first ≤ code && code ≤ last) || r.covers code) := rfl

/-! ## Operations -/

/-- Adds a range to ranges in order. It is joined with those that it touches. -/
def insert (first last : Nat) : Ranges → Ranges
  | [] => [(first, last)]
  | (f, l) :: r =>
    if last + 1 < f then (first, last) :: (f, l) :: r
    else if l + 1 < first then (f, l) :: insert first last r
    else insert (min f first) (max l last) r

/-- The ranges in order. None is empty, and none touches another. -/
def ordered (r : Ranges) : Ranges :=
  r.foldr (fun (first, last) r => if first ≤ last then insert first last r else r) []

/-- The greatest code point. -/
def lastCode : Nat := 0x10FFFF

/-- What lies from a code point on between ranges in order. -/
def gaps (start : Nat) : Ranges → Ranges
  | [] => if start ≤ lastCode then [(start, lastCode)] else []
  | (first, last) :: r =>
    if start < first then (start, first - 1) :: gaps (last + 1) r else gaps (last + 1) r

/-- The code points outside the ranges. -/
def compl (r : Ranges) : Ranges := gaps 0 r.ordered

/-- The code points in both lists of ranges. -/
def inter (r s : Ranges) : Ranges := compl (compl r ++ compl s)

/-- The code points in the first ranges that are not in the second. -/
def diff (r s : Ranges) : Ranges := compl (compl r ++ s)

/-- The code points in exactly one of the lists of ranges. -/
def symmDiff (r s : Ranges) : Ranges := diff (r ++ s) (inter r s)

end Ranges

/-- A property of characters: those of the first ranges that the second do not take out again. -/
structure CharProperty where
  /-- The characters that may have the property. -/
  included : Ranges
  /-- Those among them that lack it. -/
  excluded : Ranges := []

/-- Whether the character has the property. -/
def CharProperty.contains (p : CharProperty) (c : Char) : Bool :=
  p.included.contains c && !p.excluded.contains c

/-- The property that ranges describe by themselves. -/
instance : Coe Ranges CharProperty := ⟨fun r => { included := r }⟩

end WebRouting
