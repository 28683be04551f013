import WebRouting.Proofs.Rule.Token

/-! # Spelling rules

`spell` writes a rule for tokens: each parameter with its filter, and literal text with as many
backslashes as it takes for what looks like a placeholder to stay text. Text before a parameter has the
backslashes at its end doubled. `scan_escape` reads escaped text back, whatever was read before it and
whatever follows; so tokens in normal form are read back from their spelling, and they are all that is
ever read (`tokenize_image`). -/

namespace WebRouting.Rule

/-! ## Spelling -/

/-- Literal text as it is spelled, after a run of backslashes of it that may yet stand before a
placeholder. The backslashes at its end are doubled if a parameter follows. -/
def escape (followed : Bool) (run : Nat) : List Char → List Char
  | [] => backslashes (if followed then 2 * run else run) []
  | c :: cs =>
    if c = '\\' then escape followed (run + 1) cs
    else if c = '<' then
      match h : Placeholder.read? cs with
      | some (placeholder, rest) =>
        have : rest.length < cs.length + 1 := Nat.lt_succ_of_lt (Placeholder.length_lt_of_read? h)
        backslashes (2 * run + 1) (placeholder.spell ++ escape followed 0 rest)
      | none => backslashes run ('<' :: escape followed 0 cs)
    else backslashes run (c :: escape followed 0 cs)
termination_by cs => cs.length

/-- The placeholder of a parameter, with its filter. -/
def paramSpelling (filter name : String) : Placeholder := ⟨some filter.toList, name.toList⟩

/-- Whether the first token is a parameter. -/
def startsWithParam (tokens : List Token) : Bool := tokens.head?.any (!·.isLiteral)

/-- The characters of a rule for tokens. -/
def spellTokens : List Token → List Char
  | [] => []
  | .literal text :: tokens => escape (startsWithParam tokens) 0 text.toList ++ spellTokens tokens
  | .param filter name :: tokens => (paramSpelling filter name).spell ++ spellTokens tokens

/-- A rule for tokens. -/
def spell (tokens : List Token) : String := String.ofList (spellTokens tokens)

/-! ## Reading escaped text -/

/-- Escaping changes nothing up to the place where a placeholder has to stop, but for backslashes right
before it. -/
theorem exists_escape_eq (followed : Bool) (run : Nat) (cs after : List Char) (hafter : Stops after) :
    ∃ u v w, cs = u ++ v ∧ escape followed run cs ++ after = backslashes run u ++ w ∧
      Stops v ∧ Stops w := by
  fun_induction escape followed run cs with
  | case1 run =>
    -- the second half of a doubled run belongs to what follows
    refine ⟨[], [], backslashes (if followed then run else 0) after, rfl, ?_, stops_nil,
      hafter.backslashes _⟩
    cases followed with
    | false => rw [if_neg Bool.false_ne_true, if_neg Bool.false_ne_true, backslashes_zero]
    | true =>
      rw [if_pos rfl, if_pos rfl, Nat.two_mul, backslashes_append, backslashes_append, backslashes_add]
      rfl
  | case2 run cs ih =>
    obtain ⟨u, v, w, rfl, heq, hv, hw⟩ := ih
    exact ⟨'\\' :: u, v, w, rfl, by rw [heq, backslashes_cons], hv, hw⟩
  | case3 run cs p rest hread _ _ ih =>
    obtain ⟨body, hbody, -⟩ := (Placeholder.spell_of_read? hread).1.exists_spell_eq
    refine ⟨[], '<' :: cs, backslashes (run + 1) (p.spell ++ escape followed 0 rest ++ after), rfl, ?_,
      stops_mark cs, ?_⟩
    · rw [backslashes_append, backslashes_append, Nat.two_mul, Nat.add_assoc, backslashes_add]
      rfl
    · rw [hbody]
      exact (stops_mark _).backslashes _
  | case4 run cs _ _ _ =>
    refine ⟨[], '<' :: cs, '<' :: (escape followed 0 cs ++ after), rfl, ?_, stops_mark cs,
      stops_mark _⟩
    rw [backslashes_append, backslashes_append]
    rfl
  | case5 run c cs _ _ ih =>
    obtain ⟨u, v, w, rfl, heq, hv, hw⟩ := ih
    refine ⟨c :: u, v, w, rfl, ?_, hv, hw⟩
    rw [backslashes_append, List.cons_append, heq, backslashes_zero, backslashes_append,
      List.cons_append]

/-- Escaping makes no placeholder. -/
theorem read?_escape {cs : List Char} (h : Placeholder.read? cs = none) (followed : Bool)
    {after : List Char} (hafter : Stops after) :
    Placeholder.read? (escape followed 0 cs ++ after) = none := by
  obtain ⟨u, v, w, rfl, heq, hv, hw⟩ := exists_escape_eq followed 0 cs after hafter
  rw [heq, backslashes_zero]
  exact (Placeholder.read?_append_eq_none_iff hw).mpr ((Placeholder.read?_append_eq_none_iff hv).mp h)

/-- Escaped text is read as the text, if the scan of what follows takes the backslashes at its end for
text too. -/
theorem scan_escape {followed : Bool} {after : List Char} {tokens : List Token} (hafter : Stops after)
    (hscan : ∀ literal run, scan literal (if followed then 2 * run else run) after =
      flush (backslashes run literal) tokens)
    (literal : List Char) (run : Nat) (cs : List Char) :
    scan literal 0 (escape followed run cs ++ after) =
      flush (cs.reverse ++ backslashes run literal) tokens := by
  fun_induction escape followed run cs generalizing literal with
  | case1 run =>
    rw [backslashes_append, scan_backslashes, Nat.zero_add, List.nil_append, hscan]
    rfl
  | case2 run cs ih =>
    rw [ih, List.reverse_cons, List.append_assoc]
    rfl
  | case3 run cs p rest hread _ _ ih =>
    obtain ⟨hp, hspell⟩ := Placeholder.spell_of_read? hread
    rw [backslashes_append, List.append_assoc, scan_backslashes, scan_spell hp,
      if_pos (by omega), ih, backslashes_zero, hspell, List.reverse_append, List.append_assoc]
    -- half of the odd run is the run of the text
    rw [show (0 + (2 * run + 1)) / 2 = run by omega]
  | case4 run cs hread _ ih =>
    rw [backslashes_append, scan_backslashes, Nat.zero_add, List.cons_append,
      scan_mark (read?_escape hread followed hafter), ih, List.reverse_cons, List.append_assoc]
    rfl
  | case5 run c cs hbackslash hmark ih =>
    rw [backslashes_append, scan_backslashes, Nat.zero_add, List.cons_append,
      scan_other hbackslash hmark, ih, List.reverse_cons, List.append_assoc]
    rfl

/-! ## Reading spelled tokens -/

theorem wellFormed_paramSpelling {filter name : String}
    (h : (Token.param filter name).WellFormed) : (paramSpelling filter name).WellFormed where
  name := h.2.2
  filter_ne_nil := by
    rintro _ ⟨⟩
    exact mt String.toList_eq_nil_iff.mp h.1
  filter_plain := by
    rintro _ ⟨⟩
    exact h.2.1

@[simp] theorem token_paramSpelling (filter name : String) :
    (paramSpelling filter name).token = .param filter name := by
  simp [paramSpelling, Placeholder.token]

/-- A spelled parameter ends a literal, half of the backslashes before it included. -/
theorem scan_paramSpelling {filter name : String} (h : (Token.param filter name).WellFormed)
    (literal : List Char) (run : Nat) (rest : List Char) :
    scan literal (2 * run) ((paramSpelling filter name).spell ++ rest) =
      flush (backslashes run literal) (.param filter name :: scan [] 0 rest) := by
  rw [scan_spell (wellFormed_paramSpelling h), if_neg (by omega), token_paramSpelling,
    Nat.mul_div_cancel_left run (by decide)]

/-- The literal read backwards is the text. -/
theorem flush_reverse {text : String} (h : text ≠ "") (tokens : List Token) :
    flush (text.toList.reverse ++ backslashes 0 []) tokens = .literal text :: tokens := by
  have hne : text.toList.reverse ≠ [] := by simpa using h
  rw [backslashes_zero, List.append_nil, flush, if_neg hne, List.reverse_reverse, String.ofList_toList]

/-- Tokens in normal form are read back from their spelling. -/
theorem scan_spellTokens : ∀ {tokens : List Token}, IsNormal tokens →
    scan [] 0 (spellTokens tokens) = tokens
  | [], _ => scan_nil [] 0
  | .param filter name :: tokens, h => by
    have hparam := h.wellFormed _ List.mem_cons_self
    rw [spellTokens, ← Nat.mul_zero 2, scan_paramSpelling hparam, scan_spellTokens h.tail]
    rfl
  | [.literal text], h => by
    have htext : text ≠ "" := h.wellFormed _ List.mem_cons_self
    have hscan := @scan_escape false [] [] stops_nil scan_nil [] 0 text.toList
    rw [flush_reverse htext] at hscan
    exact hscan
  | .literal text :: .param filter name :: tokens, h => by
    have htext : text ≠ "" := h.wellFormed _ List.mem_cons_self
    have hparam := h.tail.wellFormed _ List.mem_cons_self
    -- the text is followed by an opening mark, and the parameter takes half of a run before it
    have hstops : Stops (spellTokens (.param filter name :: tokens)) := by
      obtain ⟨body, hbody, -⟩ := (wellFormed_paramSpelling hparam).exists_spell_eq
      rw [spellTokens, hbody]
      exact stops_mark _
    have hscan := @scan_escape true _ _ hstops
      (fun literal run => scan_paramSpelling hparam literal run (spellTokens tokens)) [] 0 text.toList
    rw [flush_reverse htext, scan_spellTokens h.tail.tail] at hscan
    exact hscan
  | .literal _ :: .literal _ :: _, h => absurd ⟨rfl, rfl⟩ (List.isChain_cons_cons.mp h.separated).1

/-- **What rules can say.** Every rule is read as tokens in normal form, and tokens in normal form are
read back from their spelling. So every text can be written as a rule, text that looks like a
placeholder included. -/
theorem tokenize_image :
    (∀ rule, IsNormal (tokenize rule)) ∧
      (∀ tokens, IsNormal tokens → tokenize (spell tokens) = tokens) ∧
      ∀ text : String, text ≠ "" → tokenize (spell [.literal text]) = [.literal text] := by
  have hspell : ∀ tokens, IsNormal tokens → tokenize (spell tokens) = tokens := by
    intro tokens h
    rw [tokenize, spell, String.toList_ofList, scan_spellTokens h]
  refine ⟨isNormal_tokenize, hspell, fun text htext => hspell _ ⟨?_, .singleton _⟩⟩
  rintro _ (_ | ⟨_, ⟨⟩⟩)
  exact htext

/-- Text with what looks like placeholders around a parameter, and with backslashes before them. -/
def awkwardTokens : List Token :=
  [.literal "<<x>\\<a:<y>\\", .param "in\\t" "n", .literal "\\"]

/-- Awkward text is read back from its spelling. -/
theorem tokenize_image_awkwardTokens :
    IsNormal awkwardTokens ∧ tokenize (spell awkwardTokens) = awkwardTokens ∧
      "<x>" ≠ "" ∧ tokenize (spell [.literal "<x>"]) = [.literal "<x>"] := by
  have hnormal : IsNormal awkwardTokens := by
    refine ⟨fun token htoken => ?_, by decide⟩
    rcases List.mem_cons.mp htoken with rfl | htoken
    · exact (by decide : "<<x>\\<a:<y>\\" ≠ "")
    rcases List.mem_cons.mp htoken with rfl | htoken
    · exact ⟨by decide, by decide, by decide⟩
    · obtain rfl := List.mem_singleton.mp htoken
      exact (by decide : "\\" ≠ "")
  exact ⟨hnormal, tokenize_image.2.1 _ hnormal, by decide, tokenize_image.2.2 _ (by decide)⟩

example : spell awkwardTokens = "<\\<x>\\<a:\\<y>\\\\<in\\t:n>\\" := by cbv

end WebRouting.Rule
