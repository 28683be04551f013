import WebRouting.Regex.Escape

/-! # Escapes before further text

What has been read of a pattern is read in the same way when more text follows. This holds of
significant characters (`next?_append`), of what stands in braces (`readBraced?_append`) and of escapes
(`readEscape?_append`); only the braces of a boundary are looked for ahead, and the parenthesis that
closes a group is none of them. -/

namespace WebRouting.Regex

variable {flags : Flags} {c : Char} {cs more rest t : List Char}

/-! ## Significant characters -/

theorem dropBlanks_append {inComment : Bool} (h : dropBlanks inComment cs = c :: more)
    (t : List Char) : dropBlanks inComment (cs ++ t) = c :: (more ++ t) := by
  induction cs generalizing inComment with
  | nil => simp [dropBlanks] at h
  | cons x cs ih =>
    rw [dropBlanks] at h
    rw [List.cons_append, dropBlanks]
    split at h
    · next hcomment => rw [if_pos hcomment]; exact ih h
    · next hcomment =>
      rw [if_neg hcomment]
      split at h
      · next hblank => rw [if_pos hblank]; exact ih h
      · next hblank =>
        rw [if_neg hblank]
        split at h
        · next hhash => rw [if_pos hhash]; exact ih h
        · next hhash =>
          rw [if_neg hhash]
          cases h
          rfl

theorem skip_append (h : skip flags cs = c :: more) (t : List Char) :
    skip flags (cs ++ t) = c :: (more ++ t) := by
  rw [skip] at h ⊢
  split at h
  · next hblank => rw [if_pos hblank]; exact dropBlanks_append h t
  · next hblank => rw [if_neg hblank, h]; rfl

theorem skip_of_not_ignoreBlank (h : flags.ignoreBlank = false) (cs : List Char) :
    skip flags cs = cs := by
  rw [skip, h]
  rfl

theorem next?_eq_some : next? flags cs = some (c, more) ↔ skip flags cs = c :: more := by
  rw [next?]
  cases skip flags cs <;> simp

/-- The next significant character is the next one whatever follows. -/
theorem next?_append (h : next? flags cs = some (c, more)) (t : List Char) :
    next? flags (cs ++ t) = some (c, more ++ t) :=
  next?_eq_some.mpr (skip_append (next?_eq_some.mp h) t)

theorem readBraced?_of_next? (h : next? flags cs = some (c, more)) :
    readBraced? flags cs = if c = '\x7d' then some ([], more)
      else (readBraced? flags more).map fun (body, after) => (c :: body, after) := by
  rw [readBraced?]
  split
  · next h' => rw [h] at h'; cases h'
  · next h' => rw [h] at h'; cases h'; rfl

/-- What stands in braces is read as it is by itself. -/
theorem readBraced?_append {body : List Char} (h : readBraced? flags cs = some (body, rest))
    (t : List Char) : readBraced? flags (cs ++ t) = some (body, rest ++ t) := by
  -- on the significant characters up to the brace
  induction cs using readBraced?.induct flags generalizing body with
  | case1 cs hnone =>
    rw [readBraced?] at h
    split at h
    · cases h
    · next hnext => rw [hnone] at hnext; cases hnext
  | case2 cs more hnext =>
    rw [readBraced?_of_next? hnext] at h
    cases h
    rw [readBraced?_of_next? (next?_append hnext t)]
    rfl
  | case3 cs c more hnext _ hc ih =>
    rw [readBraced?_of_next? hnext, if_neg hc] at h
    obtain ⟨⟨body, rest⟩, hbody, h⟩ := Option.map_eq_some_iff.mp h
    cases h
    rw [readBraced?_of_next? (next?_append hnext t), if_neg hc, ih hbody]
    rfl

theorem readExactly?_append {n : Nat} {body : List Char}
    (h : readExactly? flags n cs = some (body, rest)) (t : List Char) :
    readExactly? flags n (cs ++ t) = some (body, rest ++ t) := by
  induction n generalizing cs body with
  | zero =>
    cases h
    rfl
  | succ n ih =>
    simp only [readExactly?, Option.bind_eq_bind, Option.bind_eq_some_iff, Prod.exists] at h ⊢
    obtain ⟨x, more, hnext, body, rest, hbody, h⟩ := h
    cases h
    exact ⟨x, more ++ t, next?_append hnext t, body, rest ++ t, ih hbody, rfl⟩

theorem cut?_append {separator : Char} {before after : List Char}
    (h : Text.cut? separator cs = some (before, after)) (t : List Char) :
    Text.cut? separator (cs ++ t) = some (before, after ++ t) := by
  induction cs generalizing before with
  | nil => cases h
  | cons x cs ih =>
    rw [List.cons_append]
    rw [Text.cut?] at h ⊢
    split at h
    · next hx => rw [if_pos hx]; cases h; rfl
    · next hx =>
      rw [if_neg hx]
      obtain ⟨⟨before', after'⟩, hcut, h⟩ := Option.map_eq_some_iff.mp h
      cases h
      rw [ih hcut]
      rfl

theorem cut?_append_of_eq_none {separator : Char} (h : Text.cut? separator cs = none)
    (t : List Char) : Text.cut? separator (cs ++ t) =
      (Text.cut? separator t).map fun (before, after) => (cs ++ before, after) := by
  induction cs with
  | nil => simp
  | cons x cs ih =>
    rw [List.cons_append]
    rw [Text.cut?] at h ⊢
    split at h
    · cases h
    · next hx =>
      rw [if_neg hx, ih (Option.map_eq_none_iff.mp h), Option.map_map]
      rfl

/-! ## Escapes -/

/-- A code point is read as it is by itself. -/
theorem readCodePoint?_append {width : Nat} (h : readCodePoint? flags width cs = some (c, rest))
    (t : List Char) : readCodePoint? flags width (cs ++ t) = some (c, rest ++ t) := by
  simp only [readCodePoint?, Option.bind_eq_bind, Option.bind_eq_some_iff, Prod.exists] at h ⊢
  obtain ⟨x, more, hnext, h⟩ := h
  refine ⟨x, more ++ t, next?_append hnext t, ?_⟩
  split at h
  · next hx =>
    rw [if_pos hx]
    simp only [Option.bind_eq_some_iff, Prod.exists] at h ⊢
    obtain ⟨digits, rest, hdigits, x, hcode, h⟩ := h
    cases h
    exact ⟨digits, rest ++ t, readBraced?_append hdigits t, _, hcode, rfl⟩
  · next hx =>
    rw [if_neg hx]
    simp only [Option.bind_eq_some_iff, Prod.exists] at h ⊢
    obtain ⟨digits, rest, hdigits, x, hcode, h⟩ := h
    refine ⟨digits, rest ++ t, readExactly?_append hdigits t, x, hcode, ?_⟩
    split at h
    · cases h
    · next hbyte => rw [if_neg hbyte]; cases h; rfl

/-- The name of a property is read as it is by itself. -/
theorem readProperty?_append {negated : Bool} {cls : CharClass}
    (h : readProperty? flags negated cs = some (cls, rest)) (t : List Char) :
    readProperty? flags negated (cs ++ t) = some (cls, rest ++ t) := by
  simp only [readProperty?, Option.bind_eq_bind, Option.bind_eq_some_iff, Prod.exists] at h ⊢
  obtain ⟨x, more, hnext, h⟩ := h
  refine ⟨x, more ++ t, next?_append hnext t, ?_⟩
  split at h
  · next hx =>
    simp only [if_pos hx, Option.bind_eq_some_iff, Prod.exists,
      Option.ite_none_left_eq_some] at h ⊢
    obtain ⟨body, rest, hbody, p, unequal, hp, hunicode, cls, hcls, h⟩ := h
    cases h
    exact ⟨body, rest ++ t, readBraced?_append hbody t, p, unequal, hp, hunicode, cls, hcls, rfl⟩
  · next hx =>
    simp only [if_neg hx, Option.bind_eq_some_iff, Prod.exists,
      Option.ite_none_left_eq_some] at h ⊢
    obtain ⟨body, rest, hbody, p, unequal, hp, hunicode, cls, hcls, h⟩ := h
    cases hbody
    cases h
    exact ⟨[x], rest ++ t, rfl, p, unequal, hp, hunicode, cls, hcls, rfl⟩

/-- A boundary is read as it is by itself before a parenthesis, which opens no name of a boundary. -/
theorem readBoundary?_append {a : Assertion} (h : readBoundary? flags cs = some (a, rest))
    (t : List Char) : readBoundary? flags (cs ++ ')' :: t) = some (a, rest ++ ')' :: t) := by
  unfold readBoundary? at h
  split at h
  · rw [List.cons_append, readBoundary?]
    split at h
    · next c after hnext =>
      rw [next?_append hnext]
      simp only [Option.bind_eq_bind] at h ⊢
      split at h
      · next hc =>
        rw [if_pos hc]
        simp only [Option.bind_eq_some_iff, Prod.exists] at h ⊢
        obtain ⟨name, rest, hname, a, ha, h⟩ := h
        cases h
        exact ⟨name, rest ++ ')' :: t, readBraced?_append hname _, a, ha, rfl⟩
      · next hc =>
        rw [if_neg hc]
        cases h
        rfl
    · cases h
  -- no name: the parenthesis is no brace
  · next hbrace =>
    cases h
    cases cs with
    | nil => rfl
    | cons x cs =>
      rw [List.cons_append, readBoundary?]
      rintro _ ⟨⟩
      exact hbrace cs rfl

/-- An escape is read as it is by itself. -/
theorem readEscape?_append {escape : Escape} (h : readEscape? flags cs = some (escape, rest))
    (t : List Char) : readEscape? flags (cs ++ ')' :: t) = some (escape, rest ++ ')' :: t) := by
  cases cs with
  | nil => cases h
  | cons c cs =>
    rw [List.cons_append]
    unfold readEscape? at h ⊢
    simp only at h ⊢
    split at h
    -- classes that one letter names
    case h_1 | h_2 | h_3 | h_4 | h_5 | h_6 =>
      obtain ⟨cls, hcls, h⟩ := Option.map_eq_some_iff.mp h
      cases h
      exact Option.map_eq_some_iff.mpr ⟨cls, hcls, rfl⟩
    -- properties
    case h_7 | h_8 =>
      obtain ⟨⟨cls, rest⟩, hcls, h⟩ := Option.map_eq_some_iff.mp h
      cases h
      exact Option.map_eq_some_iff.mpr ⟨(cls, rest ++ _), readProperty?_append hcls _, rfl⟩
    -- code points in hexadecimal
    case h_9 | h_10 | h_11 =>
      obtain ⟨⟨code, rest⟩, hcode, h⟩ := Option.map_eq_some_iff.mp h
      cases h
      exact Option.map_eq_some_iff.mpr ⟨(code, rest ++ _), readCodePoint?_append hcode _, rfl⟩
    -- boundaries, of which only this one may have a name
    case h_14 =>
      obtain ⟨⟨a, rest⟩, ha, h⟩ := Option.map_eq_some_iff.mp h
      cases h
      exact Option.map_eq_some_iff.mpr ⟨(a, rest ++ _), readBoundary?_append ha _, rfl⟩
    -- any other character stands for itself or for nothing
    case h_18 =>
      split at h
      · next hc =>
        rw [if_pos hc]
        cases h
        rfl
      · next hc =>
        rw [if_neg hc]
        obtain ⟨code, hcode, h⟩ := Option.map_eq_some_iff.mp h
        cases h
        exact Option.map_eq_some_iff.mpr ⟨code, hcode, rfl⟩
    all_goals
      cases h
      rfl

end WebRouting.Regex
