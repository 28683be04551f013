import WebRouting.Regex.Basic

/-! # Flags of patterns

A pattern can set flags for a group or for the rest of one. Most flags choose what a symbol means;
one makes blanks and comments in the pattern insignificant. `next?` is how a reader takes the next
significant character. -/

namespace WebRouting.Regex

/-- The flags in force at a place of a pattern. -/
structure Flags where
  /-- Letters match in either case. -/
  ignoreCase : Bool := false
  /-- The anchors match at lines and not at the whole text. -/
  multiLine : Bool := false
  /-- A dot matches the end of a line too. -/
  dotAll : Bool := false
  /-- Repetitions are lazy unless marked, and marked ones greedy. -/
  swapGreed : Bool := false
  /-- Named classes are those of all scripts and not those of ASCII. -/
  unicode : Bool := true
  /-- A carriage return ends a line too. -/
  crlf : Bool := false
  /-- Blanks and comments in the pattern mean nothing. -/
  ignoreBlank : Bool := false
deriving DecidableEq

/-- Sets the flag that a letter stands for, if it stands for one. -/
def Flags.set? (flags : Flags) (on : Bool) : Char → Option Flags
  | 'i' => some { flags with ignoreCase := on }
  | 'm' => some { flags with multiLine := on }
  | 's' => some { flags with dotAll := on }
  | 'U' => some { flags with swapGreed := on }
  | 'u' => some { flags with unicode := on }
  | 'R' => some { flags with crlf := on }
  | 'x' => some { flags with ignoreBlank := on }
  | _ => none

/-- What stands between the question mark of a group and the end of its flags. -/
structure FlagReading where
  /-- The flags set so far. -/
  flags : Flags
  /-- The letters read so far. None may be repeated. -/
  letters : List Char := []
  /-- Whether the letters to come clear their flags. -/
  negated : Bool := false
  /-- Whether the last character read was the negation. -/
  dangling : Bool := false

/-- Reads flags and the character that ends them. The result tells whether a group follows; without
one at least one flag must have been read. -/
def readFlags? (reading : FlagReading) : List Char → Option (Flags × Bool × List Char)
  | [] => none
  | c :: cs =>
    if c = ':' then
      if reading.dangling then none else some (reading.flags, true, cs)
    else if c = ')' then
      if reading.dangling ∨ reading.letters = [] then none else some (reading.flags, false, cs)
    else if c = '-' then
      if reading.negated then none
      else readFlags? { reading with negated := true, dangling := true } cs
    else if c ∈ reading.letters then none
    else
      match reading.flags.set? (!reading.negated) c with
      | none => none
      | some flags =>
        readFlags? { reading with flags, letters := c :: reading.letters, dangling := false } cs

/-! ## Significant characters -/

/-- Drops blanks and comments. A comment goes from a number sign to the end of the line. -/
def dropBlanks (inComment : Bool) : List Char → List Char
  | [] => []
  | c :: cs =>
    if inComment then dropBlanks (c ≠ '\n') cs
    else if Unicode.isBlank c then dropBlanks false cs
    else if c = '#' then dropBlanks true cs
    else c :: cs

/-- Drops what means nothing under the flags. -/
def skip (flags : Flags) (cs : List Char) : List Char :=
  if flags.ignoreBlank then dropBlanks false cs else cs

theorem length_dropBlanks_le (inComment : Bool) (cs : List Char) :
    (dropBlanks inComment cs).length ≤ cs.length := by
  induction cs generalizing inComment with
  | nil => simp [dropBlanks]
  | cons c cs ih =>
    rw [dropBlanks]
    split
    · exact Nat.le_succ_of_le (ih _)
    · split
      · exact Nat.le_succ_of_le (ih _)
      · split
        · exact Nat.le_succ_of_le (ih _)
        · exact Nat.le_refl _

theorem length_skip_le (flags : Flags) (cs : List Char) : (skip flags cs).length ≤ cs.length := by
  rw [skip]
  split
  · exact length_dropBlanks_le false cs
  · exact Nat.le_refl _

/-- The next significant character and what follows it. -/
def next? (flags : Flags) (cs : List Char) : Option (Char × List Char) :=
  match skip flags cs with
  | [] => none
  | c :: rest => some (c, rest)

theorem length_lt_of_next? {flags : Flags} {cs rest : List Char} {c : Char}
    (h : next? flags cs = some (c, rest)) : rest.length < cs.length := by
  have hskip := length_skip_le flags cs
  simp only [next?] at h
  split at h
  · simp at h
  · next heq =>
    obtain ⟨_, rfl⟩ : _ ∧ _ = rest := by simpa using h
    rw [heq, List.length_cons] at hskip
    omega

/-- The significant characters before the next closing brace, and what follows it. -/
def readBraced? (flags : Flags) (cs : List Char) : Option (List Char × List Char) :=
  match h : next? flags cs with
  | none => none
  | some (c, rest) =>
    have : rest.length < cs.length := length_lt_of_next? h
    if c = '\x7d' then some ([], rest)
    else (readBraced? flags rest).map fun (body, after) => (c :: body, after)
termination_by cs.length

/-- The next `n` significant characters, and what follows them. -/
def readExactly? (flags : Flags) : Nat → List Char → Option (List Char × List Char)
  | 0, cs => some ([], cs)
  | n + 1, cs => do
    let (c, rest) ← next? flags cs
    let (body, after) ← readExactly? flags n rest
    return (c :: body, after)

end WebRouting.Regex
