import WebRouting.Proofs.Number.PlainText

/-! # Numerals that can be read

Which texts are read as numbers, among those with an optional minus before characters that stand in no
sign, exponent or name of a number. An integer of 64 bits is one of ASCII digits with a value within the
bounds (`Numeral.isSome_readInt64?_iff`). A double is one of ASCII digits, at least one, and at most one
point (`Double.isSome_read?_iff`): no value is too large for it. -/

namespace WebRouting

/-! ## Plain characters -/

/-- A character that stands in no sign, in no exponent and in no name of a number. -/
structure Numeral.IsPlain (c : Char) : Prop where
  /-- It is no letter. -/
  notAlpha : c.isAlpha = false
  /-- It is no plus. -/
  ne_plus : c ≠ '+'
  /-- It is no minus. -/
  ne_minus : c ≠ '-'

namespace Numeral

variable {negative : Bool} {body : List Char}

theorem IsPlain.ne_of_isAlpha {c d : Char} (h : IsPlain c) (hd : d.isAlpha = true) : c ≠ d := by
  rintro rfl
  have hnot := h.notAlpha
  rw [hd] at hnot
  cases hnot

theorem IsPlain.toLower_eq {c : Char} (h : IsPlain c) : c.toLower = c := by
  have hupper : c.isUpper = false := by
    have hnot : (c.isUpper || c.isLower) = false := h.notAlpha
    exact (Bool.or_eq_false_iff.mp hnot).1
  unfold Char.toLower
  apply dif_neg
  intro hrange
  have hletter : c.isUpper = true := decide_eq_true hrange
  rw [hupper] at hletter
  cases hletter

/-- A minus or nothing is taken off before plain characters. -/
theorem splitSign_signText (hplain : ∀ c ∈ body, IsPlain c) :
    splitSign (Double.signText negative ++ body) = (negative, body) := by
  cases negative with
  | true => rfl
  | false =>
    show splitSign body = (false, body)
    cases body with
    | nil => rfl
    | cons c cs =>
      have hc : IsPlain c := hplain c List.mem_cons_self
      simp [splitSign, hc.ne_plus, hc.ne_minus]

theorem isSome_readDigits? {cs : List Char} :
    (readDigits? cs).isSome = true ↔ cs ≠ [] ∧ ∀ c ∈ cs, c.isDigit = true := by
  unfold readDigits?
  split
  · rename_i h
    simpa using h
  · rename_i h
    simpa using h

/-! ## Integers -/

/-- The value of digits after a minus or nothing. -/
def signedValue (negative : Bool) (digits : List Char) : Int :=
  if negative then -(Nat.ofDigitChars 10 digits 0 : Int) else Nat.ofDigitChars 10 digits 0

theorem readInt?_signText (hplain : ∀ c ∈ body, IsPlain c) :
    readInt? (Double.signText negative ++ body) =
      (readDigits? body).map fun n => if negative then -(n : Int) else n := by
  rw [readInt?, splitSign_signText hplain]

/-- An integer of 64 bits is read from ASCII digits whose value is within the bounds. -/
theorem isSome_readInt64?_iff (hplain : ∀ c ∈ body, IsPlain c) :
    (readInt64? (Double.signText negative ++ body)).isSome = true ↔
      (body ≠ [] ∧ ∀ c ∈ body, c.isDigit = true) ∧
        -2 ^ 63 ≤ signedValue negative body ∧ signedValue negative body ≤ 2 ^ 63 - 1 := by
  rw [readInt64?, readInt?_signText hplain]
  by_cases h : body ≠ [] ∧ ∀ c ∈ body, c.isDigit = true
  · have hvalue : ((readDigits? body).map fun n => if negative then -(n : Int) else n) =
        some (signedValue negative body) := by
      rw [readDigits?_eq h.1 h.2]
      rfl
    rw [hvalue, Int64.toInt_minValue, Int64.toInt_maxValue]
    dsimp only
    by_cases hbounds : -2 ^ 63 ≤ signedValue negative body ∧ signedValue negative body ≤ 2 ^ 63 - 1
    · rw [if_pos hbounds]
      exact ⟨fun _ => ⟨h, hbounds⟩, fun _ => rfl⟩
    · rw [if_neg hbounds]
      exact iff_of_false Bool.false_ne_true fun hboth => hbounds hboth.2
  · have hnone : readDigits? body = none := by
      rw [← Option.not_isSome_iff_eq_none, isSome_readDigits?]
      exact h
    rw [hnone]
    exact iff_of_false Bool.false_ne_true fun hboth => h hboth.1

end Numeral

/-! ## Doubles -/

namespace Double

open Numeral

variable {negative : Bool} {body : List Char}

/-- Plain characters spell no name of a number. -/
theorem read?_signText_of_isPlain (hplain : ∀ c ∈ body, IsPlain c) :
    read? (signText negative ++ body) = readUnsigned? negative body := by
  have hlower : body.map Char.toLower = body :=
    (List.map_congr_left fun c hc => (hplain c hc).toLower_eq).trans (List.map_id body)
  have hname {x : Char} {name : List Char} (hx : x.isAlpha = true) : body ≠ x :: name := by
    rintro rfl
    exact (hplain x List.mem_cons_self).ne_of_isAlpha hx rfl
  have hinf : body ≠ "inf".toList := hname (x := 'i') (by decide)
  have hinfinity : body ≠ "infinity".toList := hname (x := 'i') (by decide)
  have hnan : body ≠ "nan".toList := hname (x := 'n') (by decide)
  rw [read?, splitSign_signText hplain]
  simp only [hlower]
  rw [if_neg (not_or.mpr ⟨hinf, hinfinity⟩), if_neg hnan]

/-- Plain characters hold no exponent. -/
theorem splitExponent_of_isPlain (hplain : ∀ c ∈ body, IsPlain c) :
    splitExponent body = (body, none) := by
  have hmark : ∀ c ∈ body, (c ≠ 'e' && c ≠ 'E') = true := by
    intro c hc
    have hsmall : c ≠ 'e' := (hplain c hc).ne_of_isAlpha (by decide)
    have hlarge : c ≠ 'E' := (hplain c hc).ne_of_isAlpha (by decide)
    simp [hsmall, hlarge]
  rw [splitExponent, List.span_eq_takeWhile_dropWhile, List.takeWhile_eq_self_iff.mpr hmark,
    List.dropWhile_eq_nil_iff.mpr hmark]

/-- Plain characters are read as a number if there are digits, and nothing else, before and after the
first point. -/
theorem isSome_readUnsigned? (hplain : ∀ c ∈ body, IsPlain c) {whole fraction : List Char}
    (hsplit : splitPoint body = (whole, fraction)) :
    (readUnsigned? negative body).isSome = true ↔
      whole ++ fraction ≠ [] ∧ ∀ c ∈ whole ++ fraction, c.isDigit = true := by
  rw [readUnsigned?, splitExponent_of_isPlain hplain, ← isSome_readDigits?]
  simp only [hsplit]
  cases readDigits? (whole ++ fraction) <;> rfl

/-- The first point splits characters. -/
theorem splitPoint_cases (body : List Char) :
    ('.' ∉ body ∧ splitPoint body = (body, [])) ∨
      ∃ whole fraction, '.' ∉ whole ∧ body = whole ++ '.' :: fraction ∧
        splitPoint body = (whole, fraction) := by
  have hne {cs : List Char} (h : '.' ∉ cs) : ∀ c ∈ cs, decide (c ≠ '.') = true := by
    intro c hc
    apply decide_eq_true
    rintro rfl
    exact h hc
  by_cases hpoint : '.' ∈ body
  · right
    obtain ⟨whole, fraction, rfl, hwhole⟩ := List.eq_append_cons_of_mem hpoint
    refine ⟨whole, fraction, hwhole, rfl, ?_⟩
    rw [splitPoint, List.span_eq_takeWhile_dropWhile, List.takeWhile_append_of_pos (hne hwhole),
      List.dropWhile_append_of_pos (hne hwhole)]
    simp
  · left
    refine ⟨hpoint, ?_⟩
    rw [splitPoint, List.span_eq_takeWhile_dropWhile, List.takeWhile_eq_self_iff.mpr (hne hpoint),
      List.dropWhile_eq_nil_iff.mpr (hne hpoint)]

/-- Without a point, digits and points are digits. -/
theorem digits_iff_of_not_mem (hpoint : '.' ∉ body) :
    (body ≠ [] ∧ ∀ c ∈ body, c.isDigit = true) ↔
      (∀ c ∈ body, c.isDigit = true ∨ c = '.') ∧ (∃ c ∈ body, c.isDigit = true) ∧
        body.count '.' ≤ 1 := by
  have hcount : body.count '.' = 0 := List.count_eq_zero.mpr hpoint
  constructor
  · rintro ⟨hne, hall⟩
    obtain ⟨c, hc⟩ := List.exists_mem_of_ne_nil body hne
    exact ⟨fun c hc => .inl (hall c hc), ⟨c, hc, hall c hc⟩, by omega⟩
  · rintro ⟨hall, ⟨c, hc, -⟩, -⟩
    refine ⟨List.ne_nil_of_mem hc, ?_⟩
    intro c hc
    have hne : c ≠ '.' := ne_of_mem_of_not_mem hc hpoint
    exact (hall c hc).resolve_right hne

/-- Behind the first point only digits may come. -/
theorem digits_iff_of_mem {whole fraction : List Char} (hwhole : '.' ∉ whole) :
    (whole ++ fraction ≠ [] ∧ ∀ c ∈ whole ++ fraction, c.isDigit = true) ↔
      (∀ c ∈ whole ++ '.' :: fraction, c.isDigit = true ∨ c = '.') ∧
        (∃ c ∈ whole ++ '.' :: fraction, c.isDigit = true) ∧
        (whole ++ '.' :: fraction).count '.' ≤ 1 := by
  have hcount : (whole ++ '.' :: fraction).count '.' = fraction.count '.' + 1 := by
    rw [List.count_append, List.count_eq_zero.mpr hwhole, List.count_cons_self, Nat.zero_add]
  have hnot : ('.' : Char).isDigit ≠ true := by decide
  have hmem (c : Char) : c ∈ whole ++ '.' :: fraction ↔ c ∈ whole ++ fraction ∨ c = '.' := by
    simp only [List.mem_append, List.mem_cons]
    tauto
  have hpoint : fraction.count '.' = 0 ↔ '.' ∉ whole ++ fraction := by
    rw [List.count_eq_zero, List.mem_append]
    tauto
  rw [hcount]
  constructor
  · rintro ⟨hne, hall⟩
    obtain ⟨c, hc⟩ := List.exists_mem_of_ne_nil _ hne
    have hzero : fraction.count '.' = 0 := hpoint.mpr fun h => hnot (hall '.' h)
    refine ⟨?_, ⟨c, (hmem c).mpr (.inl hc), hall c hc⟩, by omega⟩
    intro c hc
    exact ((hmem c).mp hc).imp_left (hall c)
  · rintro ⟨hall, ⟨c, hc, hdigit⟩, hle⟩
    have hzero : fraction.count '.' = 0 := by omega
    have hrest : '.' ∉ whole ++ fraction := hpoint.mp hzero
    have hcne : c ≠ '.' := by
      rintro rfl
      exact hnot hdigit
    refine ⟨List.ne_nil_of_mem (((hmem c).mp hc).resolve_right hcne), ?_⟩
    intro d hd
    have hdne : d ≠ '.' := ne_of_mem_of_not_mem hd hrest
    exact (hall d ((hmem d).mpr (.inl hd))).resolve_right hdne

/-- A double is read from ASCII digits, at least one, with at most one point among them. -/
theorem isSome_read?_iff (hplain : ∀ c ∈ body, IsPlain c) :
    (read? (signText negative ++ body)).isSome = true ↔
      (∀ c ∈ body, c.isDigit = true ∨ c = '.') ∧ (∃ c ∈ body, c.isDigit = true) ∧
        body.count '.' ≤ 1 := by
  rw [read?_signText_of_isPlain hplain]
  rcases splitPoint_cases body with ⟨hpoint, hsplit⟩ | ⟨whole, fraction, hwhole, rfl, hsplit⟩
  · rw [isSome_readUnsigned? hplain hsplit, List.append_nil]
    exact digits_iff_of_not_mem hpoint
  · rw [isSome_readUnsigned? hplain hsplit]
    exact digits_iff_of_mem hwhole

/-! ## Infinite doubles and `nan` -/

theorem ofRatio_ne_nan (negative : Bool) (num den : Nat) : ofRatio negative num den ≠ .nan := by
  unfold ofRatio ofRounded
  dsimp only
  intro h
  split_ifs at h
  cases h

/-- Plain characters are not read as `nan`. -/
theorem read?_ne_nan (hplain : ∀ c ∈ body, IsPlain c) :
    read? (signText negative ++ body) ≠ some .nan := by
  intro hread
  rw [read?_signText_of_isPlain hplain, readUnsigned?, splitExponent_of_isPlain hplain] at hread
  obtain ⟨digits, -, hround⟩ := Option.bind_eq_some_iff.mp hread
  exact ofRatio_ne_nan _ _ _ (Option.some.inj hround)

/-- An infinite double is read back from its name. -/
theorem read?_infinite (negative : Bool) :
    read? (plainText (.infinite negative)) = some (.infinite negative) := by
  cases negative <;> decide

end Double

end WebRouting
