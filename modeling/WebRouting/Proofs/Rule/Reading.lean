import Mathlib.Data.List.TakeWhile
import Mathlib.Data.Nat.Find
import WebRouting.Proofs.Rule.Token
import WebRouting.Text.Split

/-! # Reading rules

What a rule says, told without a scanner. The places where a placeholder is spelled never overlap
(`Occurs.apart`), so they cut a rule into the placeholders and the text between them in one way
(`exists_splits`). The backslashes right before a placeholder are halved, and an odd one among them
makes the placeholder text; then neighbouring text is put together. The scan of a rule gives exactly
this (`tokenize_eq_iff`): over the text up to a placeholder it only keeps count of the backslashes at
the end (`scan_gap`). -/

namespace WebRouting.Rule

variable {cs before after before' after' : List Char} {p p' : Placeholder}

/-! ## Occurrences -/

/-- A placeholder is spelled in a text, after one part of it and before another. -/
structure Occurs (cs before : List Char) (p : Placeholder) (after : List Char) : Prop where
  /-- The placeholder is well-formed. -/
  wellFormed : p.WellFormed
  /-- The text is what is before it, its spelling and what is after it. -/
  eq : cs = before ++ (p.spell ++ after)

/-- A text in front moves what occurs behind it. -/
theorem Occurs.append (h : Occurs cs before p after) (first : List Char) :
    Occurs (first ++ cs) (first ++ before) p after :=
  ⟨h.wellFormed, by rw [h.eq, List.append_assoc]⟩

/-- What occurs not before the end of a text in front occurs behind it. -/
theorem Occurs.of_append {first : List Char} (h : Occurs (first ++ cs) before p after)
    (hlength : first.length ≤ before.length) :
    ∃ between, before = first ++ between ∧ Occurs cs between p after := by
  have heq := h.eq
  rcases List.append_eq_append_iff.mp heq with ⟨between, hbefore, hcs⟩ | ⟨more, hfirst, hspell⟩
  · exact ⟨between, hbefore, h.wellFormed, hcs⟩
  · -- then the text in front ends where the placeholder starts
    have hmore : more = [] := by
      have hlength' := congrArg List.length hfirst
      rw [List.length_append] at hlength'
      exact List.eq_nil_of_length_eq_zero (by omega)
    subst hmore
    rw [List.append_nil] at hfirst
    exact ⟨[], by rw [hfirst, List.append_nil], h.wellFormed, hspell.symm⟩

/-- At one place there is one placeholder. -/
theorem Occurs.unique (h : Occurs cs before p after) (h' : Occurs cs before p' after') :
    p = p' ∧ after = after' := by
  have hcs : before ++ (p.spell ++ after) = before ++ (p'.spell ++ after') := by
    rw [← h.eq, ← h'.eq]
  have heq : p.spell ++ after = p'.spell ++ after' := List.append_cancel_left hcs
  obtain ⟨body, hbody, -⟩ := h.wellFormed.exists_spell_eq
  rw [hbody, List.cons_append] at heq
  have hread := Placeholder.read?_of_spell h'.wellFormed heq
  have hself : Placeholder.read? (body ++ ['>'] ++ after) = some (p, after) :=
    Placeholder.read?_of_spell h.wellFormed (by rw [hbody, List.cons_append])
  rw [hself] at hread
  cases hread
  exact ⟨rfl, rfl⟩

/-- A placeholder that starts after another one starts after its end: inside of it there is no opening
mark. -/
theorem Occurs.length_le (h : Occurs cs before p after) (h' : Occurs cs before' p' after')
    (hlt : before.length < before'.length) : before.length + p.spell.length ≤ before'.length := by
  by_contra hinside
  obtain ⟨body, hbody, hmark, -⟩ := h.wellFormed.exists_spell_eq
  obtain ⟨body', hbody', -⟩ := h'.wellFormed.exists_spell_eq
  have hmem : cs[before'.length]? = some '<' := by
    rw [h'.eq, hbody', List.getElem?_append_right (Nat.le_refl _), Nat.sub_self]
    rfl
  -- the mark would be one of the characters after the opening one
  rw [h.eq, List.getElem?_append_right (by omega), List.getElem?_append_left (by omega), hbody] at hmem
  obtain ⟨offset, hoffset⟩ : ∃ offset, before'.length - before.length = offset + 1 :=
    ⟨before'.length - before.length - 1, by omega⟩
  rw [hoffset, List.getElem?_cons_succ] at hmem
  rcases List.mem_append.mp (List.mem_of_getElem? hmem) with hbody | hclose
  · exact hmark hbody
  · simp at hclose

/-- Placeholders never overlap. -/
theorem Occurs.apart (h : Occurs cs before p after) (h' : Occurs cs before' p' after') :
    (before = before' ∧ p = p') ∨ before.length + p.spell.length ≤ before'.length ∨
      before'.length + p'.spell.length ≤ before.length := by
  rcases Nat.lt_trichotomy before.length before'.length with hlt | heq | hgt
  · exact .inr (.inl (h.length_le h' hlt))
  · have hbefore : before = before' :=
      (List.append_inj (h.eq.symm.trans h'.eq) heq).1
    subst hbefore
    exact .inl ⟨rfl, (h.unique h').1⟩
  · exact .inr (.inr (h'.length_le h hgt))

/-! ## Rules cut at placeholders -/

/-- A placeholder with the text between the one before it and itself. -/
structure Part where
  /-- The text before the placeholder. -/
  gap : List Char
  /-- The placeholder. -/
  placeholder : Placeholder

/-- The text of parts before a last text. -/
def spellParts (last : List Char) : List Part → List Char
  | [] => last
  | part :: parts => part.gap ++ (part.placeholder.spell ++ spellParts last parts)

/-- A text is cut into parts and a last text at all places where a placeholder occurs. -/
structure Splits (cs : List Char) (parts : List Part) (last : List Char) : Prop where
  /-- The parts make up the text. -/
  spells : cs = spellParts last parts
  /-- The placeholders that occur are those of the parts, each at its place. -/
  occurs_iff (before : List Char) (p : Placeholder) (after : List Char) :
    Occurs cs before p after ↔ ∃ first gap rest, parts = first ++ ⟨gap, p⟩ :: rest ∧
      before = spellParts gap first ∧ after = spellParts last rest

theorem spellParts_append_cons (first : List Part) (gap : List Char) (p : Placeholder)
    (rest : List Part) (last : List Char) :
    spellParts last (first ++ ⟨gap, p⟩ :: rest) =
      spellParts gap first ++ (p.spell ++ spellParts last rest) := by
  induction first with
  | nil => rfl
  | cons part first ih => simp only [List.cons_append, spellParts, ih, List.append_assoc]

/-- A text without placeholders is a last text by itself. -/
theorem Splits.nil (h : ∀ before p after, ¬Occurs cs before p after) : Splits cs [] cs where
  spells := rfl
  occurs_iff before p after := by
    constructor
    · intro hoccurs
      exact absurd hoccurs (h before p after)
    · rintro ⟨first, gap, rest, hparts, -⟩
      simp at hparts

/-- The first placeholder of a text goes before the parts of what follows it. -/
theorem Splits.cons {gap rest last : List Char} {parts : List Part} (hp : p.WellFormed)
    (hfirst : ∀ before q after, Occurs (gap ++ (p.spell ++ rest)) before q after →
      gap.length ≤ before.length)
    (h : Splits rest parts last) : Splits (gap ++ (p.spell ++ rest)) (⟨gap, p⟩ :: parts) last where
  spells := by rw [spellParts, ← h.spells]
  occurs_iff before q after := by
    have hself : Occurs (gap ++ (p.spell ++ rest)) gap p rest := ⟨hp, rfl⟩
    constructor
    · intro hoccurs
      rcases Nat.lt_or_eq_of_le (hfirst before q after hoccurs) with hlt | heq
      · -- it stands behind the first placeholder
        have hle := hself.length_le hoccurs hlt
        rw [← List.append_assoc] at hoccurs
        obtain ⟨between, rfl, hbetween⟩ := hoccurs.of_append (by rwa [List.length_append])
        obtain ⟨first, gap', rest', rfl, rfl, rfl⟩ := (h.occurs_iff between q after).mp hbetween
        exact ⟨⟨gap, p⟩ :: first, gap', rest', rfl, by rw [spellParts, List.append_assoc], rfl⟩
      · have hbefore : gap = before := (List.append_inj hoccurs.eq heq).1
        subst hbefore
        obtain ⟨rfl, rfl⟩ := hself.unique hoccurs
        exact ⟨[], gap, parts, rfl, rfl, h.spells⟩
    · rintro ⟨first, gap', rest', hparts, rfl, rfl⟩
      cases first with
      | nil =>
        obtain ⟨⟨rfl, rfl⟩, rfl⟩ : (gap = gap' ∧ p = q) ∧ parts = rest' := by simpa using hparts
        rw [← h.spells]
        exact hself
      | cons part first =>
        obtain ⟨rfl, rfl⟩ : (⟨gap, p⟩ : Part) = part ∧ parts = first ++ ⟨gap', q⟩ :: rest' := by
          simpa using hparts
        have hbehind := (h.occurs_iff _ q _).mpr ⟨first, gap', rest', rfl, rfl, rfl⟩
        have hmoved := hbehind.append (gap ++ p.spell)
        rwa [List.append_assoc, List.append_assoc] at hmoved

/-- In a text with a placeholder, some placeholder is the first. -/
theorem exists_first (h : Occurs cs before p after) :
    ∃ before p after, Occurs cs before p after ∧
      ∀ before' p' after', Occurs cs before' p' after' → before.length ≤ before'.length := by
  classical
  have hexists : ∃ n before p after, Occurs cs before p after ∧ before.length = n :=
    ⟨before.length, before, p, after, h, rfl⟩
  obtain ⟨first, q, rest, hoccurs, hlength⟩ := Nat.find_spec hexists
  refine ⟨first, q, rest, hoccurs, fun before' p' after' hoccurs' => ?_⟩
  rw [hlength]
  exact Nat.find_min' hexists ⟨before', p', after', hoccurs', rfl⟩

/-- Every text can be cut at its placeholders. -/
theorem exists_splits (cs : List Char) : ∃ parts last, Splits cs parts last := by
  induction hlength : cs.length using Nat.strong_induction_on generalizing cs with
  | _ n ih =>
    by_cases hnone : ∀ before p after, ¬Occurs cs before p after
    · exact ⟨[], cs, .nil hnone⟩
    · push Not at hnone
      obtain ⟨_, _, _, hsome⟩ := hnone
      obtain ⟨gap, p, rest, hoccurs, hfirst⟩ := exists_first hsome
      obtain ⟨hp, rfl⟩ := hoccurs
      -- what follows the first placeholder is shorter, for a spelling is not empty
      have hshorter : rest.length < n := by
        have hspell := p.length_spell_pos
        rw [← hlength, List.length_append, List.length_append]
        omega
      obtain ⟨parts, last, hsplits⟩ := ih rest.length hshorter rest rfl
      exact ⟨⟨gap, p⟩ :: parts, last, .cons hp hfirst hsplits⟩

/-! ## Tokens of the parts -/

/-- Whether the character is a backslash. -/
def isBackslash (c : Char) : Bool := c = '\\'

/-- How many backslashes end a text. -/
def runLength (gap : List Char) : Nat := (gap.reverse.takeWhile isBackslash).length

/-- The tokens of a part. Of the backslashes right before the placeholder half are left, and if their
number is odd, the placeholder is text. -/
def Part.tokens (part : Part) : List Token :=
  [.literal (String.ofList (Text.dropEndWhile isBackslash part.gap ++
      List.replicate (runLength part.gap / 2) '\\')),
    if runLength part.gap % 2 = 0 then part.placeholder.token
    else .literal (String.ofList part.placeholder.spell)]

/-- The tokens of parts and of a last text, which stands for itself. -/
def tokensOf (parts : List Part) (last : List Char) : List Token :=
  parts.flatMap Part.tokens ++ [.literal (String.ofList last)]

/-- Puts neighbouring literals together and leaves empty ones out. -/
def merge : List Token → List Token
  | [] => []
  | .param filter name :: tokens => .param filter name :: merge tokens
  | .literal text :: tokens =>
    match merge tokens with
    | .literal more :: others => .literal (text ++ more) :: others
    | others => if text = "" then others else .literal text :: others

@[simp] theorem merge_empty (tokens : List Token) : merge (.literal "" :: tokens) = merge tokens := by
  rw [merge]
  split
  · next more others h => rw [h, String.empty_append]
  · rw [if_pos rfl]

/-- Two literals in a row come to one. -/
theorem merge_literal_literal (first second : String) (tokens : List Token) :
    merge (.literal first :: .literal second :: tokens) =
      merge (.literal (first ++ second) :: tokens) := by
  rw [merge, merge, merge]
  cases hmerged : merge tokens with
  | nil => by_cases hsecond : second = "" <;> simp [hsecond]
  | cons token others =>
    cases token with
    | literal more => simp [String.append_assoc]
    | param filter name => by_cases hsecond : second = "" <;> simp [hsecond]

/-- A literal before a parameter is kept unless it is empty. -/
theorem merge_literal_param (literal : List Char) (filter name : String) (tokens : List Token) :
    merge (.literal (String.ofList literal.reverse) :: .param filter name :: tokens) =
      flush literal (.param filter name :: merge tokens) := by
  by_cases hnil : literal = [] <;> simp [merge, flush, hnil]

/-- A literal at the end is kept unless it is empty. -/
theorem merge_literal (literal : List Char) :
    merge [.literal (String.ofList literal.reverse)] = flush literal [] := by
  by_cases hnil : literal = [] <;> simp [merge, flush, hnil]

/-! ## Scanning parts -/

@[simp] theorem runLength_nil : runLength [] = 0 := rfl

theorem runLength_backslash (gap : List Char) : runLength (gap ++ ['\\']) = runLength gap + 1 := by
  simp [runLength, isBackslash]

theorem runLength_of_ne {c : Char} (hc : c ≠ '\\') (gap : List Char) : runLength (gap ++ [c]) = 0 := by
  simp [runLength, isBackslash, hc]

/-- A text is what it is without the backslashes at its end, and these. -/
theorem backslashes_runLength (gap : List Char) :
    backslashes (runLength gap) (Text.dropEndWhile isBackslash gap).reverse = gap.reverse := by
  have hrun : gap.reverse.takeWhile isBackslash = List.replicate (runLength gap) '\\' := by
    refine List.eq_replicate_iff.mpr ⟨rfl, fun c hc => ?_⟩
    simpa [isBackslash] using List.mem_takeWhile_imp hc
  rw [backslashes, Text.dropEndWhile, List.reverse_reverse, ← hrun]
  exact List.takeWhile_append_dropWhile

/-- Text in which no placeholder starts is passed over, and the backslashes at its end are counted. -/
theorem scan_gap {gap rest : List Char}
    (hfree : ∀ u v, gap = u ++ '<' :: v → Placeholder.read? (v ++ rest) = none)
    (literal : List Char) : scan literal 0 (gap ++ rest) =
      scan ((Text.dropEndWhile isBackslash gap).reverse ++ literal) (runLength gap) rest := by
  -- from the end, for the count is that of the backslashes at the end
  induction gap using List.reverseRecOn generalizing rest with
  | nil => rfl
  | append_singleton gap c ih =>
    have hfree' : ∀ u v, gap = u ++ '<' :: v → Placeholder.read? (v ++ c :: rest) = none := by
      intro u v hgap
      have hnone := hfree u (v ++ [c]) (by rw [hgap, List.append_assoc]; rfl)
      rwa [List.append_assoc] at hnone
    rw [List.append_assoc, List.singleton_append, ih hfree']
    by_cases hc : c = '\\'
    · subst hc
      rw [scan, if_pos rfl, runLength_backslash]
      simp [Text.dropEndWhile, isBackslash]
    · have hstem : (Text.dropEndWhile isBackslash (gap ++ [c])).reverse =
          c :: backslashes (runLength gap) (Text.dropEndWhile isBackslash gap).reverse := by
        rw [backslashes_runLength]
        simp [Text.dropEndWhile, isBackslash, hc]
      rw [runLength_of_ne hc, hstem, List.cons_append, backslashes_append]
      by_cases hmark : c = '<'
      · subst hmark
        exact scan_mark (hfree gap [] rfl) _ _
      · exact scan_other hc hmark _ _ _

/-- What is read behind an opening mark is a placeholder that occurs there. -/
theorem occurs_of_read? {u v rest : List Char} (h : Placeholder.read? v = some (p, rest)) :
    Occurs (u ++ '<' :: v) u p rest := by
  obtain ⟨hp, hspell⟩ := Placeholder.spell_of_read? h
  exact ⟨hp, by rw [hspell]⟩

/-- In a text that is cut, no placeholder starts before the first part's own. -/
theorem Splits.length_gap_le {gap last : List Char} {parts : List Part}
    (h : Splits cs (⟨gap, p⟩ :: parts) last) (hoccurs : Occurs cs before p' after) :
    gap.length ≤ before.length := by
  obtain ⟨first, gap', rest, hparts, rfl, -⟩ := (h.occurs_iff _ _ _).mp hoccurs
  cases first with
  | nil =>
    obtain ⟨⟨rfl, -⟩, -⟩ : (gap = gap' ∧ p = p') ∧ parts = rest := by simpa using hparts
    exact Nat.le_refl _
  | cons part first =>
    obtain ⟨rfl, -⟩ : (⟨gap, p⟩ : Part) = part ∧ parts = first ++ ⟨gap', p'⟩ :: rest := by
      simpa using hparts
    rw [spellParts, List.length_append]
    exact Nat.le_add_right _ _

/-- What follows the first placeholder of a text that is cut is cut too. -/
theorem Splits.tail {part : Part} {parts : List Part} {last : List Char}
    (h : Splits cs (part :: parts) last) :
    part.placeholder.WellFormed ∧ Splits (spellParts last parts) parts last := by
  have hself := (h.occurs_iff _ part.placeholder _).mpr ⟨[], part.gap, parts, rfl, rfl, rfl⟩
  refine ⟨hself.wellFormed, rfl, fun before p after => ?_⟩
  have hcs : cs = (part.gap ++ part.placeholder.spell) ++ spellParts last parts := by
    rw [h.spells, spellParts, List.append_assoc]
  constructor
  · intro hoccurs
    have hmoved := hoccurs.append (part.gap ++ part.placeholder.spell)
    rw [← hcs] at hmoved
    obtain ⟨first, gap, rest, hparts, hbefore, hafter⟩ := (h.occurs_iff _ _ _).mp hmoved
    cases first with
    | nil =>
      -- it would have to start where the first placeholder does
      obtain ⟨body, hspell, -⟩ := hself.wellFormed.exists_spell_eq
      obtain ⟨rfl, -⟩ : part = ⟨gap, p⟩ ∧ parts = rest := by simpa using hparts
      have hlength := congrArg List.length hbefore
      simp [spellParts, hspell] at hlength
    | cons other first =>
      obtain ⟨rfl, rfl⟩ : part = other ∧ parts = first ++ ⟨gap, p⟩ :: rest := by simpa using hparts
      rw [spellParts, ← List.append_assoc] at hbefore
      exact ⟨first, gap, rest, rfl, List.append_cancel_left hbefore, hafter⟩
  · rintro ⟨first, gap, rest, rfl, rfl, rfl⟩
    have hwhole := (h.occurs_iff _ p _).mpr ⟨part :: first, gap, rest, rfl, rfl, rfl⟩
    exact ⟨hwhole.wellFormed, spellParts_append_cons first gap p rest last⟩

/-- A text that is cut is scanned into the tokens of its parts, put together. -/
theorem scan_of_splits {parts : List Part} {last : List Char} (h : Splits cs parts last)
    (literal : List Char) : scan literal 0 cs =
      merge (.literal (String.ofList literal.reverse) :: tokensOf parts last) := by
  induction parts generalizing cs literal with
  | nil =>
    obtain rfl : cs = last := h.spells
    have hfree : ∀ u v, cs = u ++ '<' :: v → Placeholder.read? (v ++ []) = none := by
      rintro u v rfl
      refine Option.eq_none_iff_forall_ne_some.mpr fun ⟨q, rest⟩ hread => ?_
      rw [List.append_nil] at hread
      obtain ⟨first, gap, others, hparts, -⟩ := (h.occurs_iff _ _ _).mp (occurs_of_read? hread)
      simp at hparts
    have hscan := scan_gap hfree literal
    rw [List.append_nil, scan_nil, ← backslashes_append, backslashes_runLength] at hscan
    rw [hscan, tokensOf, List.flatMap_nil, List.nil_append, merge_literal_literal, ← merge_literal,
      List.reverse_append, List.reverse_reverse, String.ofList_append]
  | cons part parts ih =>
    obtain ⟨gap, p⟩ := part
    obtain ⟨hp, htail⟩ := h.tail
    have hcs := h.spells
    rw [spellParts] at hcs
    have hfree : ∀ u v, gap = u ++ '<' :: v →
        Placeholder.read? (v ++ (p.spell ++ spellParts last parts)) = none := by
      rintro u v rfl
      refine Option.eq_none_iff_forall_ne_some.mpr fun ⟨q, rest⟩ hread => ?_
      have hoccurs := occurs_of_read? (u := u) hread
      rw [← List.cons_append, ← List.append_assoc, ← hcs] at hoccurs
      have hlength := h.length_gap_le hoccurs
      rw [List.length_append, List.length_cons] at hlength
      omega
    have hstem : (backslashes (runLength gap / 2)
        ((Text.dropEndWhile isBackslash gap).reverse ++ literal)).reverse =
        literal.reverse ++ (Text.dropEndWhile isBackslash gap ++
          List.replicate (runLength gap / 2) '\\') := by
      simp [backslashes]
    rw [hcs, scan_gap hfree, scan_spell hp]
    by_cases hodd : runLength gap % 2 = 1
    · rw [if_pos hodd, ih htail, List.reverse_append, List.reverse_reverse, hstem]
      have heven : ¬runLength gap % 2 = 0 := by omega
      simp only [tokensOf, List.flatMap_cons, Part.tokens, if_neg heven, List.cons_append,
        List.nil_append, merge_literal_literal, String.ofList_append, String.append_assoc]
    · have heven : runLength gap % 2 = 0 := by omega
      rw [if_neg hodd, ih htail, List.reverse_nil]
      simp only [tokensOf, List.flatMap_cons, Part.tokens, if_pos heven, List.cons_append,
        List.nil_append, merge_literal_literal, ← String.ofList_append, ← hstem]
      rw [Placeholder.token, merge_literal_param]
      exact congrArg (fun tokens => flush _ (_ :: tokens)) (merge_empty _)

/-! ## Rules -/

/-- **What a rule says.** The placeholders in a rule never overlap. The tokens of the rule are those that
come of cutting it at all of them, halving the backslashes right before each, taking it for text if
their number is odd and for a parameter if not, and putting neighbouring text together. -/
theorem tokenize_eq_iff (rule : String) :
    (∀ before p after before' p' after', Occurs rule.toList before p after →
      Occurs rule.toList before' p' after' → (before = before' ∧ p = p') ∨
        before.length + p.spell.length ≤ before'.length ∨
        before'.length + p'.spell.length ≤ before.length) ∧
    ∀ tokens, tokenize rule = tokens ↔
      ∃ parts last, Splits rule.toList parts last ∧ tokens = merge (tokensOf parts last) := by
  have hscan {parts last} (h : Splits rule.toList parts last) :
      tokenize rule = merge (tokensOf parts last) := by
    rw [tokenize, scan_of_splits h]
    exact merge_empty _
  refine ⟨fun _ _ _ _ _ _ h h' => h.apart h', fun tokens => ?_⟩
  constructor
  · rintro rfl
    obtain ⟨parts, last, hsplits⟩ := exists_splits rule.toList
    exact ⟨parts, last, hsplits, hscan hsplits⟩
  · rintro ⟨parts, last, hsplits, rfl⟩
    exact hscan hsplits

/-- A rule in which a placeholder stands behind the start of what could have been one, after two
backslashes before that, and another one after a single backslash. -/
def nestedRule : String := "/\\\\<a:<b>\\<c>"

/-- The nested placeholder is a parameter, and the other one is text. -/
theorem tokenize_eq_iff_nestedRule :
    Occurs nestedRule.toList "/\\\\<a:".toList ⟨none, ['b']⟩ "\\<c>".toList ∧
      Occurs nestedRule.toList "/\\\\<a:<b>\\".toList ⟨none, ['c']⟩ [] ∧
      (("/\\\\<a:".toList = "/\\\\<a:<b>\\".toList ∧ (⟨none, ['b']⟩ : Placeholder) = ⟨none, ['c']⟩) ∨
        "/\\\\<a:".toList.length + (⟨none, ['b']⟩ : Placeholder).spell.length ≤
          "/\\\\<a:<b>\\".toList.length ∨
        "/\\\\<a:<b>\\".toList.length + (⟨none, ['c']⟩ : Placeholder).spell.length ≤
          "/\\\\<a:".toList.length) ∧
      ∃ parts last, Splits nestedRule.toList parts last ∧
        [.literal "/\\\\<a:", .param "default" "b", .literal "<c>"] = merge (tokensOf parts last) := by
  have hwellFormed (c : Char) (hc : isName [c] = true) : (⟨none, [c]⟩ : Placeholder).WellFormed :=
    ⟨hc, nofun, nofun⟩
  have hfirst : Occurs nestedRule.toList "/\\\\<a:".toList ⟨none, ['b']⟩ "\\<c>".toList :=
    ⟨hwellFormed 'b' (by decide), by decide⟩
  have hsecond : Occurs nestedRule.toList "/\\\\<a:<b>\\".toList ⟨none, ['c']⟩ [] :=
    ⟨hwellFormed 'c' (by decide), by decide⟩
  have htokens : tokenize nestedRule =
      [.literal "/\\\\<a:", .param "default" "b", .literal "<c>"] := by cbv
  obtain ⟨hapart, hread⟩ := tokenize_eq_iff nestedRule
  exact ⟨hfirst, hsecond, hapart _ _ _ _ _ _ hfirst hsecond, (hread _).mp htokens⟩

end WebRouting.Rule
