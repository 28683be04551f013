/-! # Cutting text

Cutting a list of characters at a separator, and taking characters off its ends. -/

namespace WebRouting.Text

/-- The pieces between the separators, one more than there are separators. -/
def pieces (separator : Char) : List Char → List (List Char)
  | [] => [[]]
  | c :: cs =>
    if c = separator then [] :: pieces separator cs
    else
      match pieces separator cs with
      | [] => [[c]]
      | piece :: rest => (c :: piece) :: rest

/-- The text before and after the first separator. -/
def cut? (separator : Char) : List Char → Option (List Char × List Char)
  | [] => none
  | c :: cs =>
    if c = separator then some ([], cs)
    else (cut? separator cs).map fun (before, after) => (c :: before, after)

/-- Drops the longest end whose characters all satisfy `p`. -/
def dropEndWhile (p : Char → Bool) (cs : List Char) : List Char :=
  (cs.reverse.dropWhile p).reverse

/-- Drops the longest start and the longest end whose characters all satisfy `p`. -/
def trim (p : Char → Bool) (cs : List Char) : List Char :=
  dropEndWhile p (cs.dropWhile p)

/-- Whether `part` stands somewhere in the text. -/
def hasInfix (part : List Char) : List Char → Bool
  | [] => part.isEmpty
  | cs@(_ :: rest) => part.isPrefixOf cs || hasInfix part rest

theorem pieces_ne_nil (separator : Char) (cs : List Char) : pieces separator cs ≠ [] := by
  cases cs with
  | nil => simp [pieces]
  | cons c cs =>
    rw [pieces]
    split
    · simp
    · split <;> simp

/-- A text without separators is one piece. -/
theorem pieces_of_not_mem {separator : Char} {cs : List Char} (h : separator ∉ cs) :
    pieces separator cs = [cs] := by
  induction cs with
  | nil => rfl
  | cons c cs ih =>
    obtain ⟨hc, hcs⟩ := List.ne_and_not_mem_of_not_mem_cons h
    rw [pieces, if_neg (Ne.symm hc), ih hcs]

/-- What is before the first separator is the first piece. -/
theorem pieces_append_cons {separator : Char} {before : List Char} (h : separator ∉ before)
    (after : List Char) :
    pieces separator (before ++ separator :: after) = before :: pieces separator after := by
  induction before with
  | nil => exact if_pos rfl
  | cons c before ih =>
    obtain ⟨hc, hbefore⟩ := List.ne_and_not_mem_of_not_mem_cons h
    rw [List.cons_append, pieces, if_neg (Ne.symm hc), ih hbefore]

@[simp] theorem cut?_nil (separator : Char) : cut? separator [] = none := rfl

@[simp] theorem cut?_cons_self (separator : Char) (cs : List Char) :
    cut? separator (separator :: cs) = some ([], cs) := by
  simp [cut?]

end WebRouting.Text
