import WebRouting.Proofs.Regex.Escape

/-! # Escapes cut short

What is read from the front of a pattern is read in the same way if the pattern is cut behind it. A
theorem named `_cut` gives the text `u` that a reader has taken. No backslash at its end escapes what
follows (`Settled`), and the reader takes `u` and no more before other text `p`: before any text if the
reader stops by itself, and else before the part of the rest up to a parenthesis. The name of a boundary
is looked for ahead, and may lie behind the parenthesis (`Dangling`). -/

namespace WebRouting.Regex

variable {flags : Flags} {c : Char} {cs more rest t : List Char}

/-! ## Backslashes -/

/-- Whether a backslash at the end of a text escapes what follows, given whether one before the text
escapes its first character. -/
def pending (before : Bool) (u : List Char) : Bool := u.foldl (fun b c => !b && c = '\\') before

/-- The text does not end in the middle of an escape. -/
def Settled (u : List Char) : Prop := pending false u = false

theorem pending_append (before : Bool) (u v : List Char) :
    pending before (u ++ v) = pending (pending before u) v := List.foldl_append

theorem pending_cons (before : Bool) (c : Char) (u : List Char) :
    pending before (c :: u) = pending (!before && c = '\\') u := rfl

theorem pending_concat (before : Bool) (u : List Char) (hc : c ≠ '\\') :
    pending before (u ++ [c]) = false := by
  rw [pending_append, pending_cons]
  simp [hc, pending]

theorem Settled.nil : Settled [] := rfl

theorem Settled.append {u v : List Char} (hu : Settled u) (hv : Settled v) : Settled (u ++ v) := by
  rw [Settled, pending_append, hu, hv]

/-- A text that ends with no backslash is settled. -/
theorem Settled.concat (u : List Char) (hc : c ≠ '\\') : Settled (u ++ [c]) :=
  pending_concat false u hc

theorem Settled.cons {u : List Char} (hc : c ≠ '\\') (hu : Settled u) : Settled (c :: u) :=
  (Settled.concat [] hc).append hu

theorem Settled.escape {u : List Char} (hu : Settled u) : Settled ('\\' :: c :: u) := by
  exact hu

/-! ## Significant characters -/

theorem isBlank_ne (h : Unicode.isBlank c = true) : c ≠ '\\' := by
  rintro rfl
  exact absurd h (by decide)

/-- Blanks and comments are dropped up to the first character that means something, also if the text is
cut there. -/
theorem dropBlanks_cut {inComment before : Bool} (h : dropBlanks inComment cs = rest)
    (hrest : rest ≠ []) (hbefore : before = false ∨ inComment = true) :
    ∃ u, cs = u ++ rest ∧ pending before u = false ∧
      ∀ p, p <+: rest → dropBlanks inComment (u ++ p) = p := by
  induction cs generalizing inComment before with
  | nil => exact absurd h.symm hrest
  | cons x cs ih =>
    rw [dropBlanks] at h
    split at h
    · next hcomment =>
      -- a line feed ends the comment, and is no backslash
      have hbefore' : (!before && x = '\\') = false ∨ decide (x ≠ '\n') = true := by
        by_cases hx : x = '\n'
        · exact .inl (by simp [hx])
        · exact .inr (by simp [hx])
      obtain ⟨u, rfl, hu, hcut⟩ := ih h hbefore'
      refine ⟨x :: u, rfl, hu, fun p hp => ?_⟩
      rw [List.cons_append, dropBlanks, if_pos hcomment, hcut p hp]
    · next hcomment =>
      obtain rfl := hbefore.resolve_right hcomment
      split at h
      · next hblank =>
        obtain ⟨u, rfl, hu, hcut⟩ := ih h (.inl rfl)
        refine ⟨x :: u, rfl, ?_, fun p hp => ?_⟩
        · rw [pending_cons]
          simpa [isBlank_ne hblank] using hu
        · rw [List.cons_append, dropBlanks, if_neg hcomment, if_pos hblank, hcut p hp]
      · next hblank =>
        split at h
        · next hhash =>
          obtain ⟨u, rfl, hu, hcut⟩ := ih h (.inl rfl)
          refine ⟨x :: u, rfl, ?_, fun p hp => ?_⟩
          · rw [pending_cons]
            simpa [hhash] using hu
          · rw [List.cons_append, dropBlanks, if_neg hcomment, if_neg hblank, if_pos hhash,
              hcut p hp]
        · next hhash =>
          subst h
          refine ⟨[], rfl, rfl, fun p hp => ?_⟩
          obtain rfl | ⟨p, rfl, -⟩ := List.prefix_cons_iff.mp hp
          · rfl
          · rw [List.nil_append, dropBlanks, if_neg hcomment, if_neg hblank, if_neg hhash]

/-- What means nothing is skipped as well if the text is cut behind it. -/
theorem skip_cut (h : skip flags cs = rest) (hrest : rest ≠ []) :
    ∃ u, cs = u ++ rest ∧ Settled u ∧ ∀ p, p <+: rest → skip flags (u ++ p) = p := by
  rw [skip] at h
  split at h
  · next hblank =>
    obtain ⟨u, rfl, hu, hcut⟩ := dropBlanks_cut h hrest (.inl rfl)
    exact ⟨u, rfl, hu, fun p hp => by rw [skip, if_pos hblank, hcut p hp]⟩
  · next hblank =>
    subst h
    exact ⟨[], rfl, .nil, fun p _ => if_neg hblank⟩

/-- What is before the next significant character. -/
theorem next?_cut (h : next? flags cs = some (c, more)) :
    ∃ u, cs = u ++ c :: more ∧ Settled u ∧ next? flags u = none ∧
      ∀ p, next? flags (u ++ c :: p) = some (c, p) := by
  obtain ⟨u, rfl, hu, hcut⟩ := skip_cut (next?_eq_some.mp h) (List.cons_ne_nil c more)
  refine ⟨u, rfl, hu, ?_, fun p => ?_⟩
  · have hnil := hcut [] List.nil_prefix
    rw [List.append_nil] at hnil
    rw [next?, hnil]
  · have hone := next?_eq_some.mpr (hcut [c] (by simp))
    simpa using next?_append hone p

/-- A character that is no blank and starts no comment means something wherever it stands. -/
theorem next?_cons (flags : Flags) (hblank : Unicode.isBlank c = false) (hhash : c ≠ '#')
    (cs : List Char) : next? flags (c :: cs) = some (c, cs) := by
  have hdrop : dropBlanks false (c :: cs) = c :: cs := by simp [dropBlanks, hblank, hhash]
  refine next?_eq_some.mpr ?_
  rw [skip, hdrop, ite_self]

/-- What stands in braces ends with the brace. -/
theorem readBraced?_cut {body : List Char} (h : readBraced? flags cs = some (body, rest)) :
    ∃ u, cs = u ++ '\x7d' :: rest ∧ ∀ p, readBraced? flags (u ++ '\x7d' :: p) = some (body, p) := by
  induction cs using readBraced?.induct flags generalizing body with
  | case1 cs hnone =>
    rw [readBraced?] at h
    split at h
    · cases h
    · next hnext => rw [hnone] at hnext; cases hnext
  | case2 cs more hnext =>
    rw [readBraced?_of_next? hnext] at h
    cases h
    obtain ⟨u, rfl, -, -, hcut⟩ := next?_cut hnext
    refine ⟨u, rfl, fun p => ?_⟩
    rw [readBraced?_of_next? (hcut p)]
    rfl
  | case3 cs c more hnext _ hc ih =>
    rw [readBraced?_of_next? hnext, if_neg hc] at h
    obtain ⟨⟨body, rest⟩, hbody, h⟩ := Option.map_eq_some_iff.mp h
    cases h
    obtain ⟨u, rfl, -, -, hcut⟩ := next?_cut hnext
    obtain ⟨v, rfl, hcut'⟩ := ih hbody
    refine ⟨u ++ c :: v, by simp, fun p => ?_⟩
    have hnext' := hcut (v ++ '\x7d' :: p)
    rw [List.append_assoc, List.cons_append, readBraced?_of_next? hnext', if_neg hc, hcut' p]
    rfl

theorem readExactly?_cut {n : Nat} {body : List Char}
    (h : readExactly? flags n cs = some (body, rest)) (hbody : '\\' ∉ body) :
    ∃ u, cs = u ++ rest ∧ Settled u ∧ ∀ p, readExactly? flags n (u ++ p) = some (body, p) := by
  induction n generalizing cs body with
  | zero =>
    cases h
    exact ⟨[], rfl, .nil, fun p => rfl⟩
  | succ n ih =>
    simp only [readExactly?, Option.bind_eq_bind, Option.bind_eq_some_iff, Prod.exists] at h ⊢
    obtain ⟨x, more, hnext, body, rest, hrest, h⟩ := h
    cases h
    rw [List.mem_cons, not_or] at hbody
    obtain ⟨u, rfl, hu, -, hcut⟩ := next?_cut hnext
    obtain ⟨v, rfl, hv, hcut'⟩ := ih hrest hbody.2
    refine ⟨u ++ x :: v, by simp, hu.append (.cons (Ne.symm hbody.1) hv), fun p => ?_⟩
    exact ⟨x, v ++ p, by simpa using hcut (v ++ p), body, p, hcut' p, rfl⟩

theorem next?_of_readExactly? {n : Nat} {body : List Char}
    (h : readExactly? flags n cs = some (c :: body, rest)) :
    ∃ more, next? flags cs = some (c, more) := by
  cases n with
  | zero => cases h
  | succ n =>
    simp only [readExactly?, Option.bind_eq_bind, Option.bind_eq_some_iff, Prod.exists] at h
    obtain ⟨x, more, hnext, body', rest', -, h⟩ := h
    cases h
    exact ⟨more, hnext⟩

/-- What is before a separator does not depend on what is behind it. -/
theorem cut?_cut {separator : Char} {before after : List Char}
    (h : Text.cut? separator cs = some (before, after)) : cs = before ++ separator :: after ∧
      ∀ p, Text.cut? separator (before ++ separator :: p) = some (before, p) := by
  induction cs generalizing before with
  | nil => cases h
  | cons x cs ih =>
    rw [Text.cut?] at h
    split at h
    · next hx =>
      cases h
      exact ⟨by rw [hx]; rfl, fun p => Text.cut?_cons_self separator p⟩
    · next hx =>
      obtain ⟨⟨before', after'⟩, hcut, h⟩ := Option.map_eq_some_iff.mp h
      cases h
      obtain ⟨rfl, hcut'⟩ := ih hcut
      exact ⟨rfl, fun p => by rw [List.cons_append, Text.cut?, if_neg hx, hcut' p]; rfl⟩

/-! ## Escapes -/

/-- A number that has been read is written in hexadecimal digits only. -/
theorem isSome_hexValue?_of_readHex? {digits : List Char} {n : Nat}
    (h : Numeral.readHex? digits = some n) : ∀ x ∈ digits, (Numeral.hexValue? x).isSome := by
  have hfold (digits : List Char) : ∀ value : Option Nat,
      digits.foldl (fun value c => do return 16 * (← value) + (← Numeral.hexValue? c)) value =
        some n → value.isSome ∧ ∀ x ∈ digits, (Numeral.hexValue? x).isSome := by
    induction digits with
    | nil => exact fun value hvalue => ⟨Option.isSome_of_eq_some hvalue, by simp⟩
    | cons x digits ih =>
      intro value hvalue
      obtain ⟨hx, hdigits⟩ := ih _ hvalue
      cases value with
      | none => cases hx
      | some value =>
        refine ⟨rfl, List.forall_mem_cons.mpr ⟨?_, hdigits⟩⟩
        cases hx' : Numeral.hexValue? x with
        | none => simp [hx'] at hx
        | some digit => rfl
  rw [Numeral.readHex?] at h
  split at h
  · cases h
  · exact (hfold digits _ h).2

theorem not_mem_of_charOfHex? {digits : List Char} (h : charOfHex? digits = some c) :
    '\\' ∉ digits := by
  obtain ⟨code, hcode, -⟩ := Option.bind_eq_some_iff.mp h
  exact fun hmem => absurd (isSome_hexValue?_of_readHex? hcode _ hmem) (by decide)

/-- A code point ends with a digit or a brace. -/
theorem readCodePoint?_cut {width : Nat} (h : readCodePoint? flags width cs = some (c, rest)) :
    ∃ u, cs = u ++ rest ∧ Settled u ∧ ∀ p, readCodePoint? flags width (u ++ p) = some (c, p) := by
  simp only [readCodePoint?, Option.bind_eq_bind, Option.bind_eq_some_iff, Prod.exists] at h ⊢
  obtain ⟨x, more, hnext, h⟩ := h
  split at h
  · next hx =>
    simp only [Option.bind_eq_some_iff, Prod.exists] at h
    obtain ⟨digits, rest, hdigits, code, hcode, h⟩ := h
    cases h
    obtain ⟨u, rfl, hu, -, hcut⟩ := next?_cut hnext
    obtain ⟨v, rfl, hcut'⟩ := readBraced?_cut hdigits
    refine ⟨u ++ x :: v ++ ['\x7d'], by simp, .concat _ (by decide), fun p => ?_⟩
    refine ⟨x, v ++ '\x7d' :: p, by simpa using hcut (v ++ '\x7d' :: p), ?_⟩
    rw [if_pos hx]
    simp only [Option.bind_eq_some_iff, Prod.exists]
    exact ⟨digits, p, hcut' p, c, hcode, rfl⟩
  · next hx =>
    simp only [Option.bind_eq_some_iff, Prod.exists] at h
    obtain ⟨digits, rest', hdigits, code, hcode, h⟩ := h
    have hbyte := h
    split at h
    · cases h
    · next hascii =>
      cases h
      obtain ⟨u, rfl, hu, hcut⟩ := readExactly?_cut hdigits (not_mem_of_charOfHex? hcode)
      refine ⟨u, rfl, hu, fun p => ?_⟩
      -- the first digit is still the first character, which is no brace
      cases digits with
      | nil => cases hcode
      | cons y digits =>
      obtain ⟨more', hmore'⟩ := next?_of_readExactly? hdigits
      obtain ⟨more'', hmore''⟩ := next?_of_readExactly? (hcut p)
      obtain rfl : x = y := (Prod.mk.inj (Option.some.inj (hnext.symm.trans hmore'))).1
      refine ⟨x, more'', hmore'', ?_⟩
      rw [if_neg hx]
      simp only [Option.bind_eq_some_iff, Prod.exists]
      exact ⟨x :: digits, p, hcut p, c, hcode, if_neg hascii⟩

theorem propertyOf?_backslash : propertyOf? ['\\'] = none := by
  have h : (propertyOf? ['\\']).isNone = true := by decide +kernel
  exact Option.isNone_iff_eq_none.mp h

/-- A property ends with its letter or a brace. -/
theorem readProperty?_cut {negated : Bool} {cls : CharClass}
    (h : readProperty? flags negated cs = some (cls, rest)) :
    ∃ u, cs = u ++ rest ∧ Settled u ∧
      ∀ p, readProperty? flags negated (u ++ p) = some (cls, p) := by
  simp only [readProperty?, Option.bind_eq_bind, Option.bind_eq_some_iff, Prod.exists] at h ⊢
  obtain ⟨x, more, hnext, h⟩ := h
  obtain ⟨u, rfl, hu, -, hcut⟩ := next?_cut hnext
  split at h
  · next hx =>
    simp only [Option.bind_eq_some_iff, Prod.exists, Option.ite_none_left_eq_some] at h
    obtain ⟨body, rest', hbody, p, unequal, hp, hunicode, cls', hcls, h⟩ := h
    cases h
    obtain ⟨v, rfl, hcut'⟩ := readBraced?_cut hbody
    refine ⟨u ++ x :: v ++ ['\x7d'], by simp, .concat _ (by decide), fun q => ?_⟩
    refine ⟨x, v ++ '\x7d' :: q, by simpa using hcut (v ++ '\x7d' :: q), ?_⟩
    rw [if_pos hx, hcut' q]
    simp [hp, hunicode, hcls]
  · next hx =>
    simp only [Option.bind_eq_some_iff, Prod.exists, Option.ite_none_left_eq_some] at h
    obtain ⟨body, rest', hbody, p, unequal, hp, hunicode, cls', hcls, h⟩ := h
    cases hbody
    cases h
    have hletter : x ≠ '\\' := by
      rintro rfl
      rw [propertyOf?_backslash] at hp
      cases hp
    refine ⟨u ++ [x], by simp, .concat _ hletter, fun q => ?_⟩
    refine ⟨x, q, by simpa using hcut q, ?_⟩
    rw [if_neg hx]
    simp [hp, hunicode, hcls]

/-- The text starts a boundary that no name completes: a brace behind which nothing significant
follows. -/
def Dangling (flags : Flags) (cs : List Char) : Prop :=
  ∃ more, cs = '\x7b' :: more ∧ next? flags more = none

theorem exists_next?_of_readBraced? {out : List Char × List Char}
    (h : readBraced? flags cs = some out) : ∃ x more, next? flags cs = some (x, more) := by
  cases hnext : next? flags cs with
  | some first => exact ⟨first.1, first.2, rfl⟩
  | none =>
    rw [readBraced?] at h
    split at h
    · cases h
    · next hfirst => rw [hnext] at hfirst; cases hfirst

/-- A boundary is read in the same way before a parenthesis, unless only a brace is left of it. -/
theorem readBoundary?_cut {a : Assertion} (h : readBoundary? flags cs = some (a, rest)) :
    ∃ u, cs = u ++ rest ∧ Settled u ∧ ∀ p t, rest = p ++ ')' :: t →
      readBoundary? flags (u ++ p) = some (a, p) ∨ Dangling flags p := by
  unfold readBoundary? at h
  split at h
  · next more =>
    split at h
    · next x after hnext =>
      split at h
      -- a name in braces
      · next hx =>
        simp only [Option.bind_eq_bind, Option.bind_eq_some_iff, Prod.exists] at h
        obtain ⟨name, rest, hname, a, ha, h⟩ := h
        cases h
        obtain ⟨v, rfl, hcut⟩ := readBraced?_cut hname
        refine ⟨'\x7b' :: v ++ ['\x7d'], by simp, .concat _ (by decide), fun p t hp => .inl ?_⟩
        obtain ⟨y, after', hy⟩ := exists_next?_of_readBraced? (hcut [])
        have hy' : some (y, after' ++ rest) = some (x, after) := by
          rw [← next?_append hy rest, ← hnext]
          simp
        obtain rfl := (Prod.mk.inj (Option.some.inj hy')).1
        have hfirst := next?_append hy p
        simp only [List.append_assoc, List.singleton_append] at hfirst
        simp [readBoundary?, hfirst, hx, hcut p, ha]
      -- braces of a repetition
      · next hx =>
        cases h
        refine ⟨[], rfl, .nil, fun p t hp => ?_⟩
        cases p with
        | nil => cases hp
        | cons y p =>
          rw [List.cons_append, List.cons.injEq] at hp
          obtain ⟨rfl, rfl⟩ := hp
          cases hp : next? flags p with
          | none => exact .inr ⟨p, rfl, hp⟩
          | some first =>
            obtain ⟨y, after'⟩ := first
            rw [next?_append hp] at hnext
            cases hnext
            exact .inl (by simp [readBoundary?, hp, hx])
    · cases h
  · next hbrace =>
    cases h
    refine ⟨[], rfl, .nil, fun p t hp => .inl ?_⟩
    rw [List.nil_append, readBoundary?]
    rintro more rfl
    exact hbrace (more ++ ')' :: t) hp

/-- An escape is read in the same way before a parenthesis, unless it is a boundary behind which only
a brace is left. -/
theorem readEscape?_cut {escape : Escape} (h : readEscape? flags cs = some (escape, rest)) :
    ∃ u, cs = u ++ rest ∧ Settled ('\\' :: u) ∧ ∀ p t, rest = p ++ ')' :: t →
      readEscape? flags (u ++ p) = some (escape, p) ∨
        (∃ a, escape = .assertion a) ∧ Dangling flags p := by
  cases cs with
  | nil => cases h
  | cons c cs =>
    unfold readEscape? at h
    simp only at h
    split at h
    -- properties
    case h_7 | h_8 =>
      obtain ⟨⟨cls, rest⟩, hcls, h⟩ := Option.map_eq_some_iff.mp h
      cases h
      obtain ⟨u, rfl, hu, hcut⟩ := readProperty?_cut hcls
      exact ⟨_ :: u, rfl, .escape hu, fun p t _ =>
        .inl (Option.map_eq_some_iff.mpr ⟨_, hcut p, rfl⟩)⟩
    -- code points in hexadecimal
    case h_9 | h_10 | h_11 =>
      obtain ⟨⟨code, rest⟩, hcode, h⟩ := Option.map_eq_some_iff.mp h
      cases h
      obtain ⟨u, rfl, hu, hcut⟩ := readCodePoint?_cut hcode
      exact ⟨_ :: u, rfl, .escape hu, fun p t _ =>
        .inl (Option.map_eq_some_iff.mpr ⟨_, hcut p, rfl⟩)⟩
    -- boundaries
    case h_14 =>
      obtain ⟨⟨a, rest⟩, ha, h⟩ := Option.map_eq_some_iff.mp h
      cases h
      obtain ⟨u, rfl, hu, hcut⟩ := readBoundary?_cut ha
      refine ⟨'b' :: u, rfl, .escape hu, fun p t hp => ?_⟩
      obtain ha | hdangling := hcut p t hp
      · exact .inl (Option.map_eq_some_iff.mpr ⟨_, ha, rfl⟩)
      · exact .inr ⟨⟨a, rfl⟩, hdangling⟩
    -- classes that one letter names
    case h_1 | h_2 | h_3 | h_4 | h_5 | h_6 =>
      obtain ⟨cls, hcls, h⟩ := Option.map_eq_some_iff.mp h
      cases h
      exact ⟨[_], rfl, .escape .nil, fun p t _ => .inl (by simp [readEscape?, hcls])⟩
    -- any other character stands for itself or for nothing
    case h_18 =>
      split at h
      · next hc =>
        cases h
        refine ⟨[c], rfl, .escape .nil, fun p t _ => .inl ?_⟩
        simp_all [readEscape?]
      · next hc =>
        obtain ⟨code, hcode, h⟩ := Option.map_eq_some_iff.mp h
        cases h
        refine ⟨[c], rfl, .escape .nil, fun p t _ => .inl ?_⟩
        simp_all [readEscape?]
    all_goals
      cases h
      exact ⟨[_], rfl, .escape .nil, fun p t _ => .inl rfl⟩

end WebRouting.Regex
