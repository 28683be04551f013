import Mathlib.Data.List.Chain
import WebRouting.Rule.Token

/-! # Tokens of rules

What reading a placeholder accepts is what spelling it writes (`Placeholder.spell_of_read?`,
`Placeholder.read?_of_spell`), and it looks no further than the next opening mark
(`Placeholder.read?_append_eq_none_iff`). From this come the equations of a scan, one for each way in
which a rule can go on. A list of tokens `IsNormal` if its tokens are well-formed and no two literals are
neighbours; every rule is read as such a list (`isNormal_tokenize`). -/

namespace WebRouting.Rule

/-! ## Characters of names -/

/-- The letters of ASCII are two ranges. -/
theorem bounds_of_isAlpha {c : Char} (h : c.isAlpha = true) :
    (65 ≤ c.toNat ∧ c.toNat ≤ 90) ∨ (97 ≤ c.toNat ∧ c.toNat ≤ 122) := by
  have hletter : (decide (c.val ≥ 'A'.val ∧ c.val ≤ 'Z'.val) ||
      decide (c.val ≥ 'a'.val) && decide (c.val ≤ 'z'.val)) = true := h
  simp only [Bool.or_eq_true, Bool.and_eq_true, decide_eq_true_eq, UInt32.le_iff_toNat_le,
    ge_iff_le] at hletter
  exact hletter

theorem bounds_of_isDigit {c : Char} (h : c.isDigit = true) : 48 ≤ c.toNat ∧ c.toNat ≤ 57 := by
  rw [Char.isDigit, Bool.and_eq_true_iff, decide_eq_true_iff, decide_eq_true_iff] at h
  exact ⟨UInt32.le_iff_toNat_le.mp h.1, UInt32.le_iff_toNat_le.mp h.2⟩

/-! ## Placeholders -/

theorem isPlain_of_isNameChar {c : Char} (h : isNameChar c = true) : isPlain c = true := by
  -- the three marks are no characters of names
  simp only [isPlain, Bool.and_eq_true, decide_eq_true_eq]
  refine ⟨⟨?_, ?_⟩, ?_⟩ <;> rintro rfl <;> exact absurd h (by decide)

theorem isNameChar_of_isNameStart {c : Char} (h : isNameStart c = true) : isNameChar c = true := by
  simp only [isNameStart, isNameChar, Char.isAlphanum, Bool.or_eq_true] at h ⊢
  tauto

theorem all_isPlain_of_isName {name : List Char} (h : isName name = true) :
    name.all isPlain = true := by
  cases name with
  | nil => rfl
  | cons c cs =>
    obtain ⟨hstart, hrest⟩ := Bool.and_eq_true_iff.mp h
    rw [List.all_eq_true] at hrest
    refine List.all_eq_true.mpr fun d hd => isPlain_of_isNameChar ?_
    rcases List.mem_cons.mp hd with rfl | hd
    · exact isNameChar_of_isNameStart hstart
    · exact hrest d hd

theorem takeWhile_isPlain {cs : List Char} (hcs : cs.all isPlain = true) {mark : Char}
    (hmark : isPlain mark = false) (rest : List Char) :
    (cs ++ mark :: rest).takeWhile isPlain = cs := by
  rw [List.takeWhile_append_of_pos (List.all_eq_true.mp hcs),
    List.takeWhile_cons_of_neg (by simp [hmark]), List.append_nil]

theorem dropWhile_isPlain {cs : List Char} (hcs : cs.all isPlain = true) {mark : Char}
    (hmark : isPlain mark = false) (rest : List Char) :
    (cs ++ mark :: rest).dropWhile isPlain = mark :: rest := by
  rw [List.dropWhile_append_of_pos (List.all_eq_true.mp hcs),
    List.dropWhile_cons_of_neg (by simp [hmark])]

theorem all_takeWhile_isPlain (cs : List Char) : (cs.takeWhile isPlain).all isPlain = true :=
  List.all_takeWhile

/-- Text after which no placeholder can go on: nothing but plain characters up to an opening mark or
the end. -/
def Stops (cs : List Char) : Prop := ∀ c ∈ (cs.dropWhile isPlain).head?, c = '<'

@[simp] theorem stops_nil : Stops [] := by simp [Stops]

@[simp] theorem stops_mark (cs : List Char) : Stops ('<' :: cs) := by
  rw [Stops, List.dropWhile_cons_of_neg (by decide)]
  simp

theorem Stops.backslashes {cs : List Char} (h : Stops cs) (run : Nat) : Stops (backslashes run cs) := by
  rw [Stops, Rule.backslashes, List.dropWhile_append_of_pos]
  · exact h
  · intro c hc
    rw [List.eq_of_mem_replicate hc]
    decide

/-- Before a text can stop, it can only have gone on. -/
theorem Stops.all_isPlain {cs rest : List Char} (h : Stops (cs ++ rest)) (hcs : '<' ∉ cs) :
    cs.all isPlain = true := by
  induction cs with
  | nil => rfl
  | cons c cs ih =>
    rw [List.mem_cons, not_or] at hcs
    by_cases hplain : isPlain c = true
    · rw [List.all_cons, hplain, Bool.true_and]
      refine ih ?_ hcs.2
      rwa [Stops, List.cons_append, List.dropWhile_cons_of_pos hplain] at h
    · -- the first mark is an opening one, but there is none here
      rw [Stops, List.cons_append, List.dropWhile_cons_of_neg hplain] at h
      exact absurd (h c rfl).symm hcs.1

namespace Placeholder

/-- The name is a name, and the filter, if one is named, is plain text that is not empty. -/
structure WellFormed (p : Placeholder) : Prop where
  /-- The name is one. -/
  name : isName p.name = true
  /-- A filter is not empty. -/
  filter_ne_nil (filter : List Char) (h : p.filter = some filter) : filter ≠ []
  /-- A filter is plain text. -/
  filter_plain (filter : List Char) (h : p.filter = some filter) : filter.all isPlain = true

/-- What is read is well-formed, and spelled as it stands there. -/
theorem spell_of_read? {cs rest : List Char} {p : Placeholder} (h : read? cs = some (p, rest)) :
    p.WellFormed ∧ '<' :: cs = p.spell ++ rest := by
  have hcs := List.takeWhile_append_dropWhile (p := isPlain) (l := cs)
  simp only [read?] at h
  split at h
  -- a name and no filter
  · next tail hdrop =>
    rw [hdrop] at hcs
    split at h
    · next hname =>
      cases h
      refine ⟨⟨hname, ?_, ?_⟩, by simpa [spell] using hcs.symm⟩ <;> rintro _ ⟨⟩
    · cases h
  -- a filter, and a name after it
  · next more hdrop =>
    rw [hdrop] at hcs
    have hmore := List.takeWhile_append_dropWhile (p := isPlain) (l := more)
    split at h
    · next tail hdrop' =>
      rw [hdrop'] at hmore
      split at h
      · next hparts =>
        cases h
        refine ⟨⟨hparts.2, ?_, ?_⟩, by simpa [spell, hmore] using hcs.symm⟩
        · rintro _ ⟨⟩
          exact hparts.1
        · rintro _ ⟨⟩
          exact all_takeWhile_isPlain cs
      · cases h
    · cases h
  · cases h

/-- A well-formed placeholder is read where it is spelled. -/
theorem read?_of_spell {cs rest : List Char} {p : Placeholder} (hp : p.WellFormed)
    (h : '<' :: cs = p.spell ++ rest) : read? cs = some (p, rest) := by
  have hname := all_isPlain_of_isName hp.name
  obtain ⟨filter, name⟩ := p
  cases filter with
  | none =>
    obtain rfl : cs = name ++ '>' :: rest := by simpa [spell] using h
    rw [read?, takeWhile_isPlain hname (by decide), dropWhile_isPlain hname (by decide)]
    exact if_pos hp.name
  | some filter =>
    have hfilter := hp.filter_plain filter rfl
    obtain rfl : cs = filter ++ ':' :: (name ++ '>' :: rest) := by simpa [spell] using h
    have hcolon : isPlain ':' = false := by decide
    have hclose : isPlain '>' = false := by decide
    simp only [read?, takeWhile_isPlain hfilter hcolon, dropWhile_isPlain hfilter hcolon,
      takeWhile_isPlain hname hclose, dropWhile_isPlain hname hclose]
    exact if_pos ⟨hp.filter_ne_nil filter rfl, hp.name⟩

theorem length_spell_pos (p : Placeholder) : 0 < p.spell.length := by
  rw [spell]
  split <;> exact Nat.succ_pos _

/-- Between the marks of a spelling there is neither of them. -/
theorem WellFormed.exists_spell_eq {p : Placeholder} (hp : p.WellFormed) :
    ∃ body, p.spell = '<' :: (body ++ ['>']) ∧ '<' ∉ body ∧ '>' ∉ body := by
  have hname := List.all_eq_true.mp (all_isPlain_of_isName hp.name)
  suffices hbody : ∃ body, p.spell = '<' :: (body ++ ['>']) ∧
      ∀ c ∈ body, isPlain c = true ∨ c = ':' by
    obtain ⟨body, hspell, hchars⟩ := hbody
    exact ⟨body, hspell, fun hmem => absurd (hchars _ hmem) (by decide),
      fun hmem => absurd (hchars _ hmem) (by decide)⟩
  obtain ⟨filter, name⟩ := p
  cases filter with
  | none => exact ⟨name, by simp [spell], fun c hc => .inl (hname c hc)⟩
  | some filter =>
    have hfilter := List.all_eq_true.mp (hp.filter_plain filter rfl)
    refine ⟨filter ++ ':' :: name, by simp [spell], fun c hc => ?_⟩
    rcases List.mem_append.mp hc with hc | hc
    · exact .inl (hfilter c hc)
    · rcases List.mem_cons.mp hc with rfl | hc
      · exact .inr rfl
      · exact .inl (hname c hc)

/-- Whether a placeholder is read does not depend on what follows a text after which none can go
on. -/
theorem read?_append_eq_none_iff {u v : List Char} (hv : Stops v) :
    read? (u ++ v) = none ↔ read? u = none := by
  constructor
  · intro h
    refine Option.eq_none_iff_forall_ne_some.mpr fun ⟨p, rest⟩ hu => ?_
    obtain ⟨hp, hspell⟩ := spell_of_read? hu
    have happend : read? (u ++ v) = some (p, rest ++ v) :=
      read?_of_spell hp (by rw [← List.cons_append, hspell, List.append_assoc])
    rw [h] at happend
    cases happend
  · intro h
    refine Option.eq_none_iff_forall_ne_some.mpr fun ⟨p, rest⟩ happend => ?_
    obtain ⟨hp, hspell⟩ := spell_of_read? happend
    obtain ⟨body, hbody, hnot, -⟩ := hp.exists_spell_eq
    rw [hbody, List.cons_append] at hspell
    -- the closing mark stands in `u` or in `v`
    rcases List.append_eq_append_iff.mp (List.cons.inj hspell).2 with ⟨a, ha, hv'⟩ | ⟨c, hc, -⟩
    · rcases List.eq_nil_or_concat a with rfl | ⟨a', last, rfl⟩
      · have hu : read? u = some (p, []) :=
          read?_of_spell hp (by rw [hbody, ha, List.append_nil, List.append_nil])
        rw [h] at hu
        cases hu
      -- in `v` it would come before any opening mark
      · rw [List.concat_eq_append, ← List.append_assoc] at ha
        obtain ⟨hinit, hlast⟩ := List.append_inj' ha rfl
        cases hlast
        have hplain := (hv' ▸ hv).all_isPlain (by
          simpa [hinit] using fun hmem => hnot (hinit ▸ List.mem_append_right u hmem))
        simp [isPlain] at hplain
    · have hu : read? u = some (p, c) :=
        read?_of_spell hp (by rw [hc, hbody, List.cons_append])
      rw [h] at hu
      cases hu

end Placeholder

/-! ## The equations of a scan -/

@[simp] theorem backslashes_zero (cs : List Char) : backslashes 0 cs = cs := rfl

theorem backslashes_succ (run : Nat) (cs : List Char) :
    backslashes (run + 1) cs = '\\' :: backslashes run cs := rfl

/-- A backslash in front of a run and one behind it are the same. -/
theorem backslashes_cons (run : Nat) (cs : List Char) :
    backslashes run ('\\' :: cs) = backslashes (run + 1) cs := by
  rw [backslashes, backslashes, List.replicate_succ', List.append_assoc]
  rfl

theorem backslashes_append (run : Nat) (cs rest : List Char) :
    backslashes run cs ++ rest = backslashes run (cs ++ rest) :=
  List.append_assoc _ _ _

theorem backslashes_add (run more : Nat) (cs : List Char) :
    backslashes (run + more) cs = backslashes run (backslashes more cs) := by
  rw [backslashes, backslashes, backslashes, List.replicate_add, List.append_assoc]

/-- At the end, the run of backslashes stands for itself. -/
theorem scan_nil (literal : List Char) (run : Nat) :
    scan literal run [] = flush (backslashes run literal) [] := by
  rw [scan]

/-- Backslashes are counted. -/
theorem scan_backslashes (literal : List Char) (run more : Nat) (cs : List Char) :
    scan literal run (backslashes more cs) = scan literal (run + more) cs := by
  induction more generalizing run with
  | zero => rfl
  | succ more ih => rw [backslashes_succ, scan, if_pos rfl, ih, Nat.add_right_comm, Nat.add_assoc]

/-- A placeholder after an odd run is plain text, and else a parameter; half of the run is left. -/
theorem scan_spell {p : Placeholder} (hp : p.WellFormed) (literal : List Char) (run : Nat)
    (rest : List Char) :
    scan literal run (p.spell ++ rest) =
      if run % 2 = 1 then scan (p.spell.reverse ++ backslashes (run / 2) literal) 0 rest
      else flush (backslashes (run / 2) literal) (p.token :: scan [] 0 rest) := by
  obtain ⟨body, hbody, -⟩ := hp.exists_spell_eq
  have hread : Placeholder.read? (body ++ ['>'] ++ rest) = some (p, rest) :=
    Placeholder.read?_of_spell hp (by rw [hbody, List.cons_append])
  rw [hbody, List.cons_append, scan, if_neg (by decide), if_pos rfl]
  split
  · next p' rest' h =>
    rw [hread] at h
    cases h
    rw [hbody]
  · next h => rw [hread] at h; cases h

/-- An opening mark that starts no placeholder stands for itself. -/
theorem scan_mark {cs : List Char} (h : Placeholder.read? cs = none) (literal : List Char)
    (run : Nat) : scan literal run ('<' :: cs) = scan ('<' :: backslashes run literal) 0 cs := by
  rw [scan, if_neg (by decide), if_pos rfl]
  split
  · next h' => rw [h] at h'; cases h'
  · rfl

/-- Any other character stands for itself. -/
theorem scan_other {c : Char} (hbackslash : c ≠ '\\') (hmark : c ≠ '<') (literal : List Char)
    (run : Nat) (cs : List Char) :
    scan literal run (c :: cs) = scan (c :: backslashes run literal) 0 cs := by
  rw [scan, if_neg hbackslash, if_neg hmark]

/-! ## Parameters -/

/-- The filter and the name of a parameter. -/
def Token.param? : Token → Option (String × String)
  | .literal _ => none
  | .param filter name => some (filter, name)

/-- The filters and names of the parameters among tokens, in order. -/
def parameters (tokens : List Token) : List (String × String) := tokens.filterMap Token.param?

@[simp] theorem parameters_nil : parameters [] = [] := rfl

@[simp] theorem parameters_literal (text : String) (tokens : List Token) :
    parameters (.literal text :: tokens) = parameters tokens := rfl

@[simp] theorem parameters_param (filter name : String) (tokens : List Token) :
    parameters (.param filter name :: tokens) = (filter, name) :: parameters tokens := rfl

@[simp] theorem parameters_append (tokens others : List Token) :
    parameters (tokens ++ others) = parameters tokens ++ parameters others :=
  List.filterMap_append

@[simp] theorem parameters_flush (literal : List Char) (tokens : List Token) :
    parameters (flush literal tokens) = parameters tokens := by
  rw [flush]
  split <;> rfl

/-! ## Normal forms -/

/-- Whether a token is literal text. -/
def Token.isLiteral : Token → Bool
  | .literal _ => true
  | .param .. => false

/-- A literal has text, the name of a parameter is one, and its filter is plain text that is not
empty. -/
def Token.WellFormed : Token → Prop
  | .literal text => text ≠ ""
  | .param filter name =>
    filter ≠ "" ∧ filter.toList.all isPlain = true ∧ isName name.toList = true

/-- All tokens are well-formed, and no two literals are neighbours. -/
structure IsNormal (tokens : List Token) : Prop where
  /-- The tokens are well-formed. -/
  wellFormed (token : Token) (h : token ∈ tokens) : token.WellFormed
  /-- Of two neighbours, one is a parameter. -/
  separated : tokens.IsChain fun a b => ¬(a.isLiteral = true ∧ b.isLiteral = true)

theorem Placeholder.WellFormed.token {p : Placeholder} (hp : p.WellFormed) :
    p.token.WellFormed := by
  obtain ⟨filter, name⟩ := p
  have hname : isName (String.ofList name).toList = true := by
    rw [String.toList_ofList]
    exact hp.name
  cases filter with
  | none =>
    exact ⟨(by decide : defaultFilter ≠ ""), (by decide : defaultFilter.toList.all isPlain = true),
      hname⟩
  | some filter =>
    refine ⟨fun h => hp.filter_ne_nil filter rfl ?_, ?_, hname⟩
    · exact String.ofList_eq_empty_iff.mp h
    · rw [Option.elim, String.toList_ofList]
      exact hp.filter_plain filter rfl

namespace IsNormal

theorem nil : IsNormal [] := ⟨nofun, .nil⟩

/-- What follows the first token is normal again. -/
theorem tail {token : Token} {tokens : List Token} (h : IsNormal (token :: tokens)) :
    IsNormal tokens :=
  ⟨fun other hother => h.wellFormed other (List.mem_cons_of_mem _ hother), h.separated.tail⟩

/-- A parameter may stand in front of anything. -/
theorem cons_param {filter name : String} {tokens : List Token} (h : IsNormal tokens)
    (hparam : (Token.param filter name).WellFormed) : IsNormal (.param filter name :: tokens) where
  wellFormed token htoken := by
    rcases List.mem_cons.mp htoken with rfl | htoken
    · exact hparam
    · exact h.wellFormed token htoken
  separated := by
    cases tokens with
    | nil => exact .singleton _
    | cons token tokens => exact .cons_cons (fun hboth => nomatch hboth.1) h.separated

/-- A literal may stand in front of nothing or of a parameter. -/
theorem flush {literal : List Char} {tokens : List Token} (h : IsNormal tokens)
    (hhead : ∀ token ∈ tokens.head?, token.isLiteral = false) : IsNormal (flush literal tokens) := by
  rw [Rule.flush]
  split
  · exact h
  · next hne =>
    refine ⟨fun token htoken => ?_, ?_⟩
    · rcases List.mem_cons.mp htoken with rfl | htoken
      · simpa [Token.WellFormed] using hne
      · exact h.wellFormed token htoken
    · cases tokens with
      | nil => exact .singleton _
      | cons token tokens =>
        have hparam := hhead token rfl
        exact .cons_cons (fun hboth => by simp [hparam] at hboth) h.separated

end IsNormal

/-- A scan ends in a normal form, whatever has been read before. -/
theorem isNormal_scan (literal : List Char) (run : Nat) (cs : List Char) :
    IsNormal (scan literal run cs) := by
  fun_induction scan literal run cs with
  | case1 => exact IsNormal.nil.flush nofun
  | case2 _ _ _ ih => exact ih
  | case3 _ _ _ _ _ _ _ _ _ _ ih => exact ih
  | case4 _ _ _ p rest hread _ _ _ _ ih =>
    -- the literal so far ends at a parameter
    have hp := (Placeholder.spell_of_read? hread).1
    exact (ih.cons_param hp.token).flush (by rintro _ ⟨⟩; rfl)
  | case5 _ _ _ _ _ ih => exact ih
  | case6 _ _ _ _ _ _ ih => exact ih

/-- Rules are read as tokens in normal form. -/
theorem isNormal_tokenize (rule : String) : IsNormal (tokenize rule) := isNormal_scan [] 0 _

end WebRouting.Rule
