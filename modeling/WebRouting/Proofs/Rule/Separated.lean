import Mathlib.Data.List.TakeWhile
import WebRouting.Proofs.Rule.Language

/-! # Separated parameters

If a literal with a slash stands between any two consecutive parameters of a rule, and no parameter
takes a text with a slash, then a path falls into parts for the tokens of the rule in one way only
(`eq_of_join_eq`). What is before the next slash is the part of the parameter and a text that the rule
fixes. -/

namespace WebRouting.Rule

/-- Whether a literal with a slash comes before the next parameter, or no parameter comes. -/
def slashAhead : List Token → Bool
  | [] => true
  | .literal text :: tokens => text.toList.contains '/' || slashAhead tokens
  | .param .. :: _ => false

/-- Whether a literal with a slash stands between any two consecutive parameters. -/
def separated : List Token → Bool
  | [] => true
  | .literal _ :: tokens => separated tokens
  | .param .. :: tokens => slashAhead tokens && separated tokens

/-! ## What is before a slash -/

/-- The characters before the first slash. -/
def beforeSlash (cs : List Char) : List Char := cs.takeWhile (· ≠ '/')

theorem beforeSlash_append_of_not_mem {u : List Char} (h : '/' ∉ u) (v : List Char) :
    beforeSlash (u ++ v) = u ++ beforeSlash v :=
  List.takeWhile_append_of_pos fun _ hx => decide_eq_true (ne_of_mem_of_not_mem hx h)

theorem beforeSlash_append_of_mem {u : List Char} (h : '/' ∈ u) (v : List Char) :
    beforeSlash (u ++ v) = beforeSlash u := by
  obtain ⟨first, second, rfl, hfirst⟩ := List.eq_append_cons_of_mem h
  rw [List.append_assoc, beforeSlash_append_of_not_mem hfirst,
    beforeSlash_append_of_not_mem hfirst]
  rfl

/-! ## Unique parts -/

variable {registry : Registry} {tokens : List Token} {parts parts' : List String}

/-- No filter that the tokens name in the registry accepts a text with a slash. -/
def TakesNoSlash (registry : Registry) (tokens : List Token) : Prop :=
  ∀ filter name spec, .param filter name ∈ tokens → registry.find? filter = some spec →
    ∀ part, spec.accepts part = true → '/' ∉ part.toList

/-- Up to the next slash, what comes before the next parameter does not depend on the parameters. -/
theorem beforeSlash_join_eq (h : slashAhead tokens = true)
    (hparts : List.Forall₂ (Token.Covers registry) tokens parts)
    (hparts' : List.Forall₂ (Token.Covers registry) tokens parts') :
    beforeSlash (String.join parts).toList = beforeSlash (String.join parts').toList := by
  induction tokens generalizing parts parts' with
  | nil =>
    cases hparts
    cases hparts'
    rfl
  | cons token tokens ih =>
    cases hparts with
    | @cons _ part _ _ hfirst hothers =>
    cases hparts' with
    | cons hfirst' hothers' =>
      cases hfirst with
      | param => cases h
      | literal =>
        cases hfirst'
        rw [String.join_cons, String.join_cons, String.toList_append, String.toList_append]
        -- up to a slash in this literal, or on to what follows it
        by_cases hslash : '/' ∈ part.toList
        · rw [beforeSlash_append_of_mem hslash, beforeSlash_append_of_mem hslash]
        · have hahead : slashAhead tokens = true := by
            simpa [slashAhead, hslash] using h
          rw [beforeSlash_append_of_not_mem hslash, beforeSlash_append_of_not_mem hslash,
            ih hahead hothers hothers']

/-- A path falls into parts for the tokens of a rule with separated parameters in one way only. -/
theorem eq_of_join_eq (hslash : TakesNoSlash registry tokens) (h : separated tokens = true)
    (hparts : List.Forall₂ (Token.Covers registry) tokens parts)
    (hparts' : List.Forall₂ (Token.Covers registry) tokens parts')
    (hjoin : String.join parts = String.join parts') : parts = parts' := by
  induction tokens generalizing parts parts' with
  | nil =>
    cases hparts
    cases hparts'
    rfl
  | cons token tokens ih =>
    have hothers : TakesNoSlash registry tokens := fun filter name spec hmem =>
      hslash filter name spec (List.mem_cons_of_mem token hmem)
    cases hparts with
    | @cons _ part _ parts hfirst hrest =>
    cases hparts' with
    | @cons _ part' _ parts' hfirst' hrest' =>
      have hchars : part.toList ++ (String.join parts).toList =
          part'.toList ++ (String.join parts').toList := by
        rw [← String.toList_append, ← String.toList_append, ← String.join_cons, hjoin,
          String.join_cons]
      have hpart : part = part' ∧ separated tokens = true := by
        cases hfirst with
        | literal text =>
          cases hfirst'
          exact ⟨rfl, h⟩
        | @param filter name _ spec hspec haccepts =>
          obtain ⟨hahead, hseparated⟩ := Bool.and_eq_true_iff.mp h
          cases hfirst' with
          | param hspec' haccepts' =>
            obtain rfl := Option.some.inj (hspec.symm.trans hspec')
            have hnot := hslash filter name spec List.mem_cons_self hspec
            -- both parts end where the same text goes on to the next slash
            have hbefore := congrArg beforeSlash hchars
            rw [beforeSlash_append_of_not_mem (hnot part haccepts),
              beforeSlash_append_of_not_mem (hnot part' haccepts'),
              beforeSlash_join_eq hahead hrest hrest'] at hbefore
            exact ⟨String.toList_injective (List.append_cancel_right hbefore), hseparated⟩
      obtain ⟨rfl, hseparated⟩ := hpart
      have hjoin' := String.toList_injective (List.append_cancel_left hchars)
      rw [ih hothers hseparated hrest hrest' hjoin']

end WebRouting.Rule
