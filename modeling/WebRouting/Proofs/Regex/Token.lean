import WebRouting.Proofs.Regex.Bracket
import WebRouting.Regex.Reader

/-! # Tokens inside a group

A token that has been read from a pattern is read in the same way when the pattern stands inside a
group, before the parenthesis that closes it (`readToken?_append`). Most readers stop at a character of
their own and never see what follows. Those that look further ahead are a quantifier, which may be
lazy, and the blanks and comments that a flag makes insignificant; neither takes the parenthesis for
something else. -/

namespace WebRouting.Regex

variable {flags : Flags} {c : Char} {cs more rest t : List Char}

/-! ## Groups -/

/-- The flags of a group are read as they are by themselves. -/
theorem readFlags?_append {reading : FlagReading} {opens : Bool} {out : Flags}
    (h : readFlags? reading cs = some (out, opens, rest)) (t : List Char) :
    readFlags? reading (cs ++ t) = some (out, opens, rest ++ t) := by
  fun_induction readFlags? reading cs
  case case3 hdangling => cases h; simp [readFlags?, hdangling]
  case case5 hdangling _ => cases h; simp_all [readFlags?]
  case case7 hnegated _ _ ih => simp [readFlags?, hnegated, ih h]
  case case10 hcolon hparen hhyphen hletter _ hset ih =>
    simp [readFlags?, hcolon, hparen, hhyphen, hletter, hset, ih h]
  all_goals cases h

theorem readGroupName?_append {token : Token} (h : readGroupName? cs = some (token, rest))
    (t : List Char) : readGroupName? (cs ++ t) = some (token, rest ++ t) := by
  rw [readGroupName?] at h ⊢
  split at h
  · next name more hcut =>
    rw [cut?_append hcut]
    simp only
    split at h
    · next hname => rw [if_pos hname]; cases h; rfl
    · cases h
  · cases h

/-- What is skipped does not depend on what follows, if a character is left or nothing is skipped. -/
theorem skip_append_of_ne_nil (h : flags.ignoreBlank = false ∨ skip flags cs ≠ [])
    (t : List Char) : skip flags (cs ++ t) = skip flags cs ++ t := by
  obtain hblank | hskip := h
  · rw [skip_of_not_ignoreBlank hblank, skip_of_not_ignoreBlank hblank]
  · obtain ⟨x, more, hmore⟩ := List.exists_cons_of_ne_nil hskip
    rw [hmore, skip_append hmore, List.cons_append]

/-- The start of a group is read as it is by itself. -/
theorem readGroupStart?_append {token : Token} (h : readGroupStart? flags cs = some (token, rest))
    (hrest : flags.ignoreBlank = false ∨ rest ≠ [] ∨ token = .groupEnd) (t : List Char) :
    readGroupStart? flags (cs ++ ')' :: t) = some (token, rest ++ ')' :: t) := by
  -- if nothing but blanks were ahead, the group would end the pattern
  have hskip : flags.ignoreBlank = false ∨ skip flags cs ≠ [] := by
    refine hrest.imp_right fun hrest hskip => ?_
    rw [readGroupStart?, hskip] at h
    cases h
    exact hrest.elim (· rfl) Token.noConfusion
  unfold readGroupStart? at h ⊢
  rw [skip_append_of_ne_nil hskip]
  split at h
  case h_1 | h_2 => cases h
  -- a name in angle brackets, which is no assertion
  case h_3 name hahead hbehind hname =>
    rw [hname]
    cases name with
    | nil => cases h
    | cons x name =>
      have hx : x ≠ '=' := fun hx => hahead name (by rw [hx])
      have hx' : x ≠ '!' := fun hx => hbehind name (by rw [hx])
      have hname := readGroupName?_append h (')' :: t)
      rw [List.cons_append] at hname
      simp [hx, hx', hname]
  -- a name in angle brackets after `P`
  case h_4 name hname =>
    rw [hname]
    exact readGroupName?_append h _
  -- flags: their letters are none of the marks of a name, also where more follows
  case h_5 letters _ _ hangle hnamed hletters =>
    rw [hletters]
    obtain ⟨⟨out, opens, rest⟩, hflags, h⟩ := Option.map_eq_some_iff.mp h
    cases h
    have hflags := readFlags?_append hflags (')' :: t)
    cases letters with
    | nil => cases hflags
    | cons x letters =>
      have hx : x ≠ '<' := fun hx => hangle letters (by rw [hx])
      rw [List.cons_append] at hflags
      by_cases hp : x = 'P'
      · subst hp
        cases letters with
        | nil =>
          rw [List.nil_append] at hflags
          simp [hflags]
        | cons y letters =>
          have hy : y ≠ '<' := fun hy => hnamed letters (by rw [hy])
          rw [List.cons_append] at hflags
          simp [hy, hflags]
      · simp [hx, hp, hflags]
  -- a group without any mark
  case h_6 hquestion =>
    cases h
    cases hcs : skip flags cs with
    | nil => rfl
    | cons x more =>
      have hx : x ≠ '?' := fun hx => hquestion more (by rw [hcs, hx])
      simp [hx]

/-! ## Quantifiers -/

/-- What closes a group does not make a quantifier lazy. -/
theorem markLazy_append (flags : Flags) (least : Nat) (most : Option Nat) (cs t : List Char) :
    markLazy flags least most (cs ++ ')' :: t) =
      ((markLazy flags least most cs).1, (markLazy flags least most cs).2 ++ ')' :: t) := by
  cases cs with
  | nil => rfl
  | cons x cs =>
    by_cases hx : x = '?'
    · subst hx
      rfl
    · simp [markLazy, hx]

/-- A counted repetition is read as it is by itself. -/
theorem readCounted?_append {token : Token} (h : readCounted? flags cs = some (token, rest))
    (hrest : flags.ignoreBlank = false ∨ rest ≠ [] ∨ token = .groupEnd) (t : List Char) :
    readCounted? flags (cs ++ ')' :: t) = some (token, rest ++ ')' :: t) := by
  simp only [readCounted?, Option.bind_eq_bind, Option.bind_eq_some_iff, Prod.exists] at h ⊢
  obtain ⟨body, more, hbody, least, most, hbounds, h⟩ := h
  refine ⟨body, more ++ ')' :: t, readBraced?_append hbody _, least, most, hbounds, ?_⟩
  have hskip : flags.ignoreBlank = false ∨ skip flags more ≠ [] := by
    refine hrest.imp_right fun hrest hskip => ?_
    rw [hskip] at h
    cases h
    exact hrest.elim (· rfl) Token.noConfusion
  rw [skip_append_of_ne_nil hskip, markLazy_append, Option.some.inj h]
  rfl

/-! ## Tokens -/

/-- A token is read inside a group as it is read by itself. Where comments may reach the end of the
group, something must be left that keeps them from it. -/
theorem readToken?_append {token : Token} (h : readToken? flags c cs = some (token, rest))
    (hrest : flags.ignoreBlank = false ∨ rest ≠ [] ∨ token = .groupEnd) (t : List Char) :
    readToken? flags c (cs ++ ')' :: t) = some (token, rest ++ ')' :: t) := by
  unfold readToken? at h ⊢
  split at h
  case h_1 => exact readGroupStart?_append h hrest t
  case h_4 =>
    obtain ⟨⟨cls, rest⟩, hcls, h⟩ := Option.map_eq_some_iff.mp h
    cases h
    rw [readBracket?_append hcls]
    rfl
  case h_5 | h_6 | h_7 => rw [markLazy_append, Option.some.inj h]
  case h_8 => exact readCounted?_append h hrest t
  case h_9 =>
    split at h
    · next hunicode => rw [if_pos hunicode]; cases h; rfl
    · cases h
  case h_12 =>
    obtain ⟨⟨escape, rest⟩, hescape, h⟩ := Option.map_eq_some_iff.mp h
    rw [readEscape?_append hescape]
    cases escape <;> cases h <;> rfl
  all_goals
    cases h
    rfl

/-! ## Kinds of tokens -/

/-- What a token says of the text from which it was read: only a parenthesis closes a group, and an
expression that is complete by itself is a single class or assertion. -/
def Token.ReadFrom (c : Char) (cs rest : List Char) : Token → Prop
  | groupEnd => c = ')' ∧ rest = cs
  | atom r _ => (∃ allowed, r = .char allowed) ∨ ∃ a, r = .assert a
  | _ => True

theorem readFrom_of_readGroupStart? {token : Token}
    (h : readGroupStart? flags cs = some (token, rest)) : token.ReadFrom c more rest := by
  unfold readGroupStart? at h
  split at h
  case h_3 | h_4 =>
    rw [readGroupName?] at h
    split at h
    · split at h <;> cases h
      trivial
    · cases h
  case h_5 =>
    obtain ⟨⟨out, opens, rest⟩, -, h⟩ := Option.map_eq_some_iff.mp h
    cases opens <;> cases h <;> trivial
  all_goals cases h
  trivial

theorem readFrom_of_markLazy {token : Token} {least : Nat} {most : Option Nat}
    (h : markLazy flags least most cs = (token, rest)) : token.ReadFrom c more rest := by
  unfold markLazy at h
  split at h <;> cases h <;> trivial

theorem readFrom_of_readToken? {token : Token} (h : readToken? flags c cs = some (token, rest)) :
    token.ReadFrom c cs rest := by
  unfold readToken? at h
  split at h
  case h_1 => exact readFrom_of_readGroupStart? h
  case h_2 => cases h; exact ⟨rfl, rfl⟩
  case h_3 => cases h; trivial
  case h_4 =>
    obtain ⟨⟨⟨cls, depth⟩, rest⟩, -, h⟩ := Option.map_eq_some_iff.mp h
    cases h
    exact .inl ⟨cls, rfl⟩
  case h_5 | h_6 | h_7 => exact readFrom_of_markLazy (Option.some.inj h)
  case h_8 =>
    simp only [readCounted?, Option.bind_eq_bind, Option.bind_eq_some_iff, Prod.exists] at h
    obtain ⟨body, more, -, least, most, -, h⟩ := h
    exact readFrom_of_markLazy (Option.some.inj h)
  case h_9 =>
    split at h <;> cases h
    exact .inl ⟨_, rfl⟩
  case h_10 | h_11 => cases h; exact .inr ⟨_, rfl⟩
  case h_12 =>
    obtain ⟨⟨escape, rest⟩, -, h⟩ := Option.map_eq_some_iff.mp h
    cases escape <;> cases h
    · exact .inl ⟨_, rfl⟩
    · exact .inl ⟨_, rfl⟩
    · exact .inr ⟨_, rfl⟩
  case h_13 => cases h; exact .inl ⟨_, rfl⟩

end WebRouting.Regex
