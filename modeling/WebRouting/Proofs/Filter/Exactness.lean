import WebRouting.Proofs.Filter.Decoding
import WebRouting.Proofs.Number.Integer
import WebRouting.Proofs.Number.Whole

/-! # Exactness of the built-in filters

What the built-in filters decode and what they write, for all texts and all numbers. The filter for
integers decodes the texts of integers of 64 bits to these integers and writes every number so that it
can read it (`int_exact`). The filter for floats decodes decimal numbers and writes all but the infinite
ones and `nan` in plain decimal (`float_exact`). So a text that was accepted and decoded has one spelling
that is written for its value, which is decoded to the value again; it is accepted again unless the value
is infinite, which is what a number too large for a double is decoded to (`canonical_spelling`). -/

namespace WebRouting

open Numeral

namespace Filter

variable {segment : String} {v : Value}

/-! ## Decoding by reading -/

theorem decodeWith_eq_ok_iff {expected raw : String} {read? : String → Option Value} :
    decodeWith expected read? raw = .ok v ↔ read? raw = some v := by
  unfold decodeWith
  cases read? raw <;> simp

theorem decodeWith_error {expected raw : String} {read? : String → Option Value} {e : DecodeError}
    (h : decodeWith expected read? raw = .error e) : e = .invalid raw expected := by
  unfold decodeWith at h
  cases hread : read? raw with
  | some v => rw [hread] at h; cases h
  | none => rw [hread] at h; cases h; rfl

/-! ## Integers -/

theorem decode_int_iff {n : Int64} :
    Filter.int.decode segment = .ok (.int n) ↔ readInt64? segment.toList = some n := by
  show decodeWith "int" (fun raw => (readInt64? raw.toList).map .int) segment = _ ↔ _
  rw [decodeWith_eq_ok_iff, Option.map_eq_some_iff]
  simp only [Value.int.injEq, exists_eq_right]

theorem decode_int_error {e : DecodeError} (h : Filter.int.decode segment = .error e) :
    e = .invalid segment "int" := by
  have hdecode : decodeWith "int" (fun raw => (readInt64? raw.toList).map .int) segment = .error e := h
  exact decodeWith_error hdecode

/-- Of what is accepted as an integer, the spellings of integers of 64 bits are decoded to these. -/
theorem decode_int_eq_ok_iff (haccepts : Filter.int.accepts segment = true) :
    Filter.int.decode segment = .ok v ↔
      ∃ n, SpellsInt64 segment.toList n ∧ v = .int (Int64.ofInt n) := by
  constructor
  · intro hdecode
    obtain ⟨k, rfl⟩ := exists_int_of_decode hdecode
    obtain ⟨negative, digits, htext, -, hdigits⟩ := accepts_int_iff.mp haccepts
    have hplain : ∀ c ∈ digits, IsPlain c := by
      intro c hc
      exact isPlain_of_contains_digit (hdigits c hc)
    rw [decode_int_iff, htext, readInt64?_eq_some_iff hplain, signedValue_eq] at hdecode
    obtain ⟨hascii, hvalue⟩ := hdecode
    have hmost : k.toInt < 2 ^ 63 := k.toInt_lt
    refine ⟨k.toInt, ⟨⟨negative, digits, htext, hascii, hvalue.symm⟩, k.le_toInt, by omega⟩, ?_⟩
    rw [Int64.ofInt_toInt]
  · rintro ⟨n, ⟨⟨negative, digits, htext, hascii, rfl⟩, hleast, hmost⟩, rfl⟩
    have hplain : ∀ c ∈ digits, IsPlain c := by
      intro c hc
      exact isPlain_of_isDigit (hascii.2 c hc)
    rw [decode_int_iff, htext, readInt64?_eq_some_iff hplain, signedValue_eq,
      Int64.toInt_ofInt_of_le hleast (by omega)]
    exact ⟨hascii, rfl⟩

theorem isInt64Text_iff {cs : List Char} : IsInt64Text cs ↔ ∃ n, SpellsInt64 cs n := by
  unfold IsInt64Text SpellsInt64 Spells
  simp only [signedValue_eq]
  constructor
  · rintro ⟨negative, digits, htext, hascii, hbounds⟩
    exact ⟨_, ⟨negative, digits, htext, hascii, rfl⟩, hbounds⟩
  · rintro ⟨n, ⟨negative, digits, htext, hascii, rfl⟩, hbounds⟩
    exact ⟨negative, digits, htext, hascii, hbounds⟩

/-- What is accepted as an integer and spells none of 64 bits is refused. -/
theorem decode_int_eq_error (haccepts : Filter.int.accepts segment = true)
    (h : ¬ ∃ n, SpellsInt64 segment.toList n) :
    Filter.int.decode segment = .error (.invalid segment "int") := by
  cases hdecode : Filter.int.decode segment with
  | ok v =>
    have hok : (Filter.int.decode segment).isOk = true := by rw [hdecode]; rfl
    exact absurd (isInt64Text_iff.mp ((isOk_decode_int_iff haccepts).mp hok)) h
  | error e => rw [decode_int_error hdecode]

/-- **Integers, exactly.** What is accepted as an integer is decoded if it is a spelling, in ASCII digits,
of an integer of 64 bits, to this integer, and is refused otherwise. Every integer and every double, be it
infinite or `nan`, is written as a text that is accepted and decoded: an integer to itself, a double to
its integer part as far as that fits. -/
theorem int_exact :
    (∀ segment, Filter.int.accepts segment = true →
      (∀ v, Filter.int.decode segment = .ok v ↔
        ∃ n, SpellsInt64 segment.toList n ∧ v = .int (Int64.ofInt n)) ∧
      ((¬ ∃ n, SpellsInt64 segment.toList n) →
        Filter.int.decode segment = .error (.invalid segment "int"))) ∧
    (∀ n, Filter.int.accepts (Filter.int.encode (.int n)) = true ∧
      Filter.int.decode (Filter.int.encode (.int n)) = .ok (.int n)) ∧
    ∀ x, Filter.int.accepts (Filter.int.encode (.float x)) = true ∧
      ∃ n : Int64, n.toInt = x.integerValue ∧
        Filter.int.decode (Filter.int.encode (.float x)) = .ok (.int n) := by
  refine ⟨?_, ?_, ?_⟩
  · intro segment haccepts
    exact ⟨fun v => decode_int_eq_ok_iff haccepts, decode_int_eq_error haccepts⟩
  · intro n
    exact ⟨(Fits.int n).accepts_encode, (Fits.int n).decode_encode⟩
  · intro x
    -- a double is made to an integer first and written as that
    have hfits := Fits.int x.toInt64
    exact ⟨hfits.accepts_encode, x.toInt64, x.toInt_toInt64, hfits.decode_encode⟩

/-- The least integer is read although its digits alone are too many. -/
theorem int_exact_leastInteger : Filter.int.accepts "-9223372036854775808" = true ∧
    Filter.int.decode "-9223372036854775808" = .ok (.int Int64.minValue) := by
  have haccepts : Filter.int.accepts "-9223372036854775808" = true := by decide +kernel
  have htext : "-9223372036854775808".toList =
      Double.signText true ++ "9223372036854775808".toList := by decide +kernel
  have hascii : "9223372036854775808".toList ≠ [] ∧
      ∀ c ∈ "9223372036854775808".toList, c.isDigit = true :=
    ⟨by decide +kernel, List.all_eq_true.mp (by decide +kernel)⟩
  have hvalue : -9223372036854775808 = signedValue true "9223372036854775808".toList := by
    decide +kernel
  have hspells : SpellsInt64 "-9223372036854775808".toList (-9223372036854775808) :=
    ⟨⟨true, _, htext, hascii, hvalue.trans (signedValue_eq _ _)⟩, by norm_num, by norm_num⟩
  exact ⟨haccepts, ((int_exact.1 _ haccepts).1 _).mpr ⟨_, hspells, rfl⟩⟩

/-! ## Floats -/

theorem decode_float_iff {x : Double} :
    Filter.float.decode segment = .ok (.float x) ↔ Double.read? segment.toList = some x := by
  show decodeWith "float" (fun raw => (Double.read? raw.toList).map .float) segment = _ ↔ _
  rw [decodeWith_eq_ok_iff, Option.map_eq_some_iff]
  simp only [Value.float.injEq, exists_eq_right]

/-- The filter for floats writes a value in plain decimal, as a text that it accepts and that it decodes
to a double. -/
structure WritesAsDouble (v : Value) (x : Double) : Prop where
  /-- The text is in plain decimal. -/
  plain : Double.IsPlainDecimal (Filter.float.encode v).toList
  /-- The pattern accepts it. -/
  accepted : Filter.float.accepts (Filter.float.encode v) = true
  /-- It is decoded to the double. -/
  decoded : Filter.float.decode (Filter.float.encode v) = .ok (.float x)

theorem writesAsDouble_float {x : Double} (hx : x.isFinite = true) : WritesAsDouble (.float x) x where
  plain := by
    rw [toList_encode_float]
    exact Double.isPlainDecimal_plainText hx
  accepted := (Fits.float hx).accepts_encode
  decoded := (Fits.float hx).decode_encode

/-- An integer is written as the double nearest to it. -/
theorem writesAsDouble_int (n : Int64) : WritesAsDouble (.int n) (.ofInt n.toInt) := by
  obtain ⟨hplain, haccepted, hdecoded⟩ := writesAsDouble_float (Double.isFinite_ofInt n)
  exact ⟨hplain, haccepted, hdecoded⟩

/-- **Floats, exactly.** What is accepted as a float is decoded if it is ASCII digits, at least one, with
at most one point among them, after a minus or nothing. Every finite double and every integer is written
in plain decimal, as a text that is accepted and decoded. -/
theorem float_exact :
    (∀ segment, Filter.float.accepts segment = true →
      ((Filter.float.decode segment).isOk = true ↔ Double.IsDecimalText segment.toList)) ∧
    (∀ x : Double, x.isFinite = true → WritesAsDouble (.float x) x) ∧
    ∀ n : Int64, WritesAsDouble (.int n) (.ofInt n.toInt) := by
  refine ⟨?_, ?_, ?_⟩
  · intro segment haccepts
    exact isOk_decode_float_iff haccepts
  · intro x hx
    exact writesAsDouble_float hx
  · exact writesAsDouble_int

/-- A digit on one side of the point is enough, but a point alone is no number. -/
theorem float_exact_point :
    (Filter.float.accepts "-.5" = true ∧ (Filter.float.decode "-.5").isOk = true) ∧
      Filter.float.accepts "-." = true ∧ (Filter.float.decode "-.").isOk = false := by
  have hhalf : Filter.float.accepts "-.5" = true := by decide +kernel
  have hpoint : Filter.float.accepts "-." = true := by decide +kernel
  refine ⟨⟨hhalf, (float_exact.1 _ hhalf).mpr ?_⟩, hpoint, ?_⟩
  · exact ⟨true, ['.', '5'], rfl,
      List.forall_mem_cons.mpr ⟨.inr rfl, List.forall_mem_singleton.mpr (.inl rfl)⟩,
      ⟨'5', List.mem_cons_of_mem _ (List.mem_singleton_self _), rfl⟩, by decide⟩
  · rw [Bool.eq_false_iff]
    intro hok
    obtain ⟨sign, body, htext, -, ⟨c, hc, hdigit⟩, -⟩ := (float_exact.1 _ hpoint).mp hok
    have hmem : c ∈ ['-', '.'] := by
      change ['-', '.'] = Double.signText sign ++ body at htext
      rw [htext]
      exact List.mem_append_right _ hc
    rcases List.mem_pair.mp hmem with rfl | rfl
    · exact absurd hdigit (by decide)
    · exact absurd hdigit (by decide)

/-! ## Canonical spellings -/

/-- What a built-in filter decodes fits it unless it is infinite. -/
theorem IsBuiltin.fits_or_infinite {f : Filter} (hf : f.IsBuiltin)
    (haccepts : f.accepts segment = true) (hdecode : f.decode segment = .ok v) :
    f.Fits v ∨ f = .float ∧ ∃ negative, v = .float (.infinite negative) := by
  rcases hf with rfl | rfl | rfl
  · cases hdecode
    obtain ⟨hne, hslash⟩ := accepts_string_iff.mp haccepts
    exact .inl (.string hne hslash)
  · obtain ⟨n, rfl⟩ := exists_int_of_decode hdecode
    exact .inl (.int n)
  · obtain ⟨x, rfl⟩ := exists_float_of_decode hdecode
    cases x with
    | finite negative m e hcanonical => exact .inl (.float rfl)
    | infinite negative => exact .inr ⟨rfl, negative, rfl⟩
    | nan =>
      obtain ⟨negative, body, htext, -, hbody⟩ := accepts_float_iff.mp haccepts
      have hplain : ∀ c ∈ body, IsPlain c := by
        intro c hc
        exact isPlain_of_digit_or_point (hbody c hc)
      rw [decode_float_iff, htext] at hdecode
      exact absurd hdecode (Double.read?_ne_nan hplain)

/-- The name of an infinite number is no text of digits and points. -/
theorem accepts_infinite (negative : Bool) :
    Filter.float.accepts (Filter.float.encode (.float (.infinite negative))) = false := by
  rw [Bool.eq_false_iff]
  intro haccepts
  obtain ⟨sign, body, htext, -, hbody⟩ := accepts_float_iff.mp haccepts
  rw [toList_encode_float] at htext
  have hmem : 'n' ∈ Double.signText sign ++ body := by
    rw [← htext]
    cases negative <;> decide
  have hsign : 'n' ∉ Double.signText sign := by cases sign <;> decide
  rcases hbody 'n' ((List.mem_append.mp hmem).resolve_left hsign) with hdigit | hpoint
  · exact absurd (isDigit_of_contains_digit hdigit (by decide)) (by decide)
  · exact absurd hpoint (by decide)

/-- **Canonical spellings.** What a built-in filter accepts and decodes to a value, it writes as a text
that is decoded to the value again. This text is accepted too, unless the value is an infinite double:
then the digits that were decoded made a number too large for a double, and its name is not a number. -/
theorem canonical_spelling {f : Filter} (hf : f.IsBuiltin) (haccepts : f.accepts segment = true)
    (hdecode : f.decode segment = .ok v) :
    f.decode (f.encode v) = .ok v ∧
      (f.accepts (f.encode v) = true ↔ ∀ negative, v ≠ .float (.infinite negative)) := by
  rcases hf.fits_or_infinite haccepts hdecode with hfits | ⟨rfl, negative, rfl⟩
  · refine ⟨hfits.decode_encode, iff_of_true hfits.accepts_encode ?_⟩
    rintro negative rfl
    cases hfits with
    | float hx => cases hx
  · refine ⟨decode_float_iff.mpr ?_, iff_of_false ?_ fun hfinite => hfinite negative rfl⟩
    · rw [toList_encode_float, Double.read?_infinite]
    · rw [accepts_infinite]
      exact Bool.false_ne_true

/-- A number with zeros before it and after it is written without most of them. -/
theorem canonical_spelling_zeros :
    ∃ x, Filter.float.accepts "-007.50" = true ∧ Filter.float.decode "-007.50" = .ok (.float x) ∧
      Filter.float.encode (.float x) = "-7.5" ∧ Filter.float.accepts "-7.5" = true ∧
      Filter.float.decode "-7.5" = .ok (.float x) := by
  have haccepts : Filter.float.accepts "-007.50" = true := by decide +kernel
  have hread : Double.read? "-007.50".toList =
      some (.finite true 8444249301319680 (-50) (by decide)) := by decide +kernel
  have hencode : Filter.float.encode (.float (.finite true 8444249301319680 (-50) (by decide))) =
      "-7.5" := by decide +kernel
  have hdecode := decode_float_iff.mpr hread
  obtain ⟨hagain, hcanonical⟩ := canonical_spelling (.inr (.inr rfl)) haccepts hdecode
  rw [hencode] at hagain hcanonical
  exact ⟨_, haccepts, hdecode, hencode, hcanonical.mpr nofun, hagain⟩

/-- Three hundred and nine nines are accepted and decoded to an infinite double, which is written as a
text that is not accepted. -/
theorem not_canonical_spelling :
    Filter.float.accepts (String.ofList (List.replicate 309 '9')) = true ∧
      Filter.float.decode (String.ofList (List.replicate 309 '9')) =
        .ok (.float (.infinite false)) ∧
      Filter.float.accepts (Filter.float.encode (.float (.infinite false))) = false := by
  have hdigits : ∀ c ∈ List.replicate 309 '9', c.isDigit = true := by
    intro c hc
    rw [List.eq_of_mem_replicate hc]
    rfl
  refine ⟨?_, ?_, accepts_infinite false⟩
  · refine accepts_float_iff.mpr ⟨false, _, String.toList_ofList, by decide, ?_⟩
    intro c hc
    exact .inl (contains_digit (hdigits c hc))
  · have hround : Double.ofDecimal false (Nat.ofDigitChars 10 (List.replicate 309 '9') 0) 0 =
        .infinite false := by decide +kernel
    have hplain : ∀ c ∈ List.replicate 309 '9', IsPlain c := by
      intro c hc
      exact isPlain_of_isDigit (hdigits c hc)
    have hread : Double.read? (Double.signText false ++ List.replicate 309 '9') = _ :=
      Double.read?_signText_of_isPlain hplain
    rw [Double.readUnsigned?_digits false hdigits (by decide), hround] at hread
    rw [decode_float_iff, String.toList_ofList]
    exact hread

end Filter

end WebRouting
