/-! # Tokens of rules

A rule is the text of a path with placeholders `<name>` or `<filter:name>` in it. A run of
backslashes right before a placeholder is halved; if the run is odd, the placeholder is plain text.
Everything else stands for itself, backslashes elsewhere included. `tokenize` reads a rule into
literal text and parameters; no literal is empty and no two are neighbours. -/

namespace WebRouting.Rule

/-- A part of a rule. -/
inductive Token where
  /-- Text that a path must contain as it stands. -/
  | literal (text : String)
  /-- A parameter, with the name of the filter for its segment. -/
  | param (filter name : String)
deriving DecidableEq

/-- The filter of a placeholder that names none. -/
def defaultFilter : String := "default"

/-! ## Placeholders -/

/-- A character that may stand between the marks of a placeholder. -/
def isPlain (c : Char) : Bool := c ≠ '<' && c ≠ '>' && c ≠ ':'

/-- A character that may start a parameter name. -/
def isNameStart (c : Char) : Bool := c.isAlpha || c = '_'

/-- A character that may stand in a parameter name. -/
def isNameChar (c : Char) : Bool := c.isAlphanum || c = '_'

/-- Whether the characters form a parameter name. -/
def isName : List Char → Bool
  | [] => false
  | c :: cs => isNameStart c && cs.all isNameChar

/-- A placeholder as it is spelled. -/
structure Placeholder where
  /-- The filter, if one is named. -/
  filter : Option (List Char)
  /-- The parameter. -/
  name : List Char
deriving DecidableEq

namespace Placeholder

/-- The spelling of a placeholder. -/
def spell (p : Placeholder) : List Char :=
  match p.filter with
  | none => '<' :: p.name ++ ['>']
  | some filter => '<' :: filter ++ ':' :: p.name ++ ['>']

/-- The parameter that a placeholder declares. -/
def token (p : Placeholder) : Token :=
  .param (p.filter.elim defaultFilter String.ofList) (String.ofList p.name)

/-- Reads a placeholder whose opening mark has been read, and returns what follows it. -/
def read? (cs : List Char) : Option (Placeholder × List Char) :=
  let first := cs.takeWhile isPlain
  match cs.dropWhile isPlain with
  | '>' :: rest => if isName first then some (⟨none, first⟩, rest) else none
  | ':' :: more =>
    let second := more.takeWhile isPlain
    match more.dropWhile isPlain with
    | '>' :: rest => if first ≠ [] ∧ isName second then some (⟨some first, second⟩, rest) else none
    | _ => none
  | _ => none

theorem length_dropWhile_le (p : Char → Bool) (cs : List Char) :
    (cs.dropWhile p).length ≤ cs.length :=
  (List.dropWhile_sublist p).length_le

/-- What follows a placeholder is shorter than what it was read from. -/
theorem length_lt_of_read? {cs rest : List Char} {p : Placeholder} (h : read? cs = some (p, rest)) :
    rest.length < cs.length := by
  have hfirst := length_dropWhile_le isPlain cs
  simp only [read?] at h
  split at h
  · next tail heq =>
    rw [heq, List.length_cons] at hfirst
    obtain ⟨_, _, rfl⟩ : isName _ = true ∧ _ = p ∧ tail = rest := by simpa using h
    omega
  · next more heq =>
    rw [heq, List.length_cons] at hfirst
    have hsecond := length_dropWhile_le isPlain more
    split at h
    · next tail heq' =>
      rw [heq', List.length_cons] at hsecond
      obtain ⟨_, _, rfl⟩ : _ ∧ _ = p ∧ tail = rest := by simpa using h
      omega
    · simp at h
  · simp at h

end Placeholder

/-! ## Scanning -/

/-- The literal read backwards so far, as a token in front of others unless it is empty. -/
def flush (literal : List Char) (tokens : List Token) : List Token :=
  if literal = [] then tokens else .literal (String.ofList literal.reverse) :: tokens

/-- Puts a run of backslashes on a literal read backwards. -/
def backslashes (run : Nat) (literal : List Char) : List Char :=
  List.replicate run '\\' ++ literal

/-- Reads the tokens of what follows, after a literal read backwards so far and a run of backslashes
that may yet stand before a placeholder. -/
def scan (literal : List Char) (run : Nat) : List Char → List Token
  | [] => flush (backslashes run literal) []
  | c :: cs =>
    if c = '\\' then scan literal (run + 1) cs
    else if c = '<' then
      match h : Placeholder.read? cs with
      | some (placeholder, rest) =>
        have : rest.length < cs.length + 1 := Nat.lt_succ_of_lt (Placeholder.length_lt_of_read? h)
        let literal := backslashes (run / 2) literal
        if run % 2 = 1 then scan (placeholder.spell.reverse ++ literal) 0 rest
        else flush literal (placeholder.token :: scan [] 0 rest)
      | none => scan ('<' :: backslashes run literal) 0 cs
    else scan (c :: backslashes run literal) 0 cs
termination_by cs => cs.length

/-- The tokens of a rule. -/
def tokenize (rule : String) : List Token := scan [] 0 rule.toList

end WebRouting.Rule
