import WebRouting.Proofs.Filter.Builtin
import WebRouting.Proofs.Number.Readable

/-! # What the built-in filters decode

The patterns of numbers accept more than can be decoded: the digits of every script, any number of them,
and points anywhere among them. Of what the filter for integers accepts it decodes the texts of integers
of 64 bits (`isOk_decode_int_iff`), and of what the filter for floats accepts it decodes the texts of
decimal numbers, however large they are (`isOk_decode_float_iff`). -/

namespace WebRouting

/-! ## Texts of numbers -/

/-- Text of an integer of 64 bits: ASCII digits after a minus or nothing, with a value within the
bounds. -/
def Numeral.IsInt64Text (cs : List Char) : Prop :=
  ∃ negative digits, cs = Double.signText negative ++ digits ∧
    (digits ≠ [] ∧ ∀ c ∈ digits, c.isDigit = true) ∧
    -2 ^ 63 ≤ signedValue negative digits ∧ signedValue negative digits ≤ 2 ^ 63 - 1

/-- Text of a decimal number: ASCII digits after a minus or nothing, at least one, with at most one
point among them. -/
def Double.IsDecimalText (cs : List Char) : Prop :=
  ∃ negative body, cs = signText negative ++ body ∧
    (∀ c ∈ body, c.isDigit = true ∨ c = '.') ∧ (∃ c ∈ body, c.isDigit = true) ∧ body.count '.' ≤ 1

/-! ## Digits of all scripts -/

/-- The only ASCII characters among the digits of all scripts are the ASCII digits. -/
theorem isDigit_of_contains_digit {c : Char} (h : (CharClass.digit true).contains c = true)
    (hascii : c.toNat < 128) : c.isDigit = true := by
  have htable : ∀ n < 128, Ranges.covers Unicode.decimalNumber n = true → 48 ≤ n ∧ n ≤ 57 := by
    decide +kernel
  have hcovers : Ranges.covers Unicode.decimalNumber c.toNat = true :=
    (Bool.and_eq_true_iff.mp h).1
  obtain ⟨hfirst, hlast⟩ := htable c.toNat hascii hcovers
  rw [Char.isDigit, Bool.and_eq_true_iff, decide_eq_true_iff, decide_eq_true_iff]
  exact ⟨UInt32.le_iff_toNat_le.mpr hfirst, UInt32.le_iff_toNat_le.mpr hlast⟩

/-- The digits of all scripts are plain: letters and signs are ASCII characters, where only the ASCII
digits are digits. -/
theorem isPlain_of_contains_digit {c : Char} (h : (CharClass.digit true).contains c = true) :
    Numeral.IsPlain c := by
  refine ⟨?_, ?_, ?_⟩
  · rw [Bool.eq_false_iff]
    intro halpha
    have hletter := Rule.bounds_of_isAlpha halpha
    have hdigit := Rule.bounds_of_isDigit (isDigit_of_contains_digit h (by omega))
    omega
  · rintro rfl
    exact absurd (isDigit_of_contains_digit h (by decide)) (by decide)
  · rintro rfl
    exact absurd (isDigit_of_contains_digit h (by decide)) (by decide)

theorem isPlain_of_isDigit {c : Char} (h : c.isDigit = true) : Numeral.IsPlain c :=
  isPlain_of_contains_digit (Filter.contains_digit h)

theorem isPlain_point : Numeral.IsPlain '.' := ⟨by decide, by decide, by decide⟩

theorem isPlain_of_digit_or_point {c : Char}
    (h : (CharClass.digit true).contains c = true ∨ c = '.') : Numeral.IsPlain c := by
  rcases h with hdigit | rfl
  · exact isPlain_of_contains_digit hdigit
  · exact isPlain_point

/-! ## Texts of numbers are accepted -/

namespace Filter

variable {raw text : String} {v : Value}

theorem accepts_int_of_isInt64Text (h : Numeral.IsInt64Text text.toList) :
    Filter.int.accepts text = true := by
  obtain ⟨negative, digits, htext, ⟨hne, hdigits⟩, -⟩ := h
  refine accepts_int_iff.mpr ⟨negative, digits, htext, hne, ?_⟩
  intro c hc
  exact contains_digit (hdigits c hc)

theorem accepts_float_of_isDecimalText (h : Double.IsDecimalText text.toList) :
    Filter.float.accepts text = true := by
  obtain ⟨negative, body, htext, hbody, ⟨c, hc, -⟩, -⟩ := h
  refine accepts_float_iff.mpr ⟨negative, body, htext, List.ne_nil_of_mem hc, ?_⟩
  intro d hd
  exact (hbody d hd).imp_left contains_digit

/-! ## Decoded texts -/

theorem isOk_decodeWith (expected : String) (read? : String → Option Value) (raw : String) :
    (decodeWith expected read? raw).isOk = (read? raw).isSome := by
  unfold decodeWith
  cases read? raw <;> rfl

theorem isOk_decode_int (raw : String) :
    (Filter.int.decode raw).isOk = (Numeral.readInt64? raw.toList).isSome := by
  have hok := isOk_decodeWith "int" (fun raw => (Numeral.readInt64? raw.toList).map .int) raw
  rw [Option.isSome_map] at hok
  exact hok

theorem isOk_decode_float (raw : String) :
    (Filter.float.decode raw).isOk = (Double.read? raw.toList).isSome := by
  have hok := isOk_decodeWith "float" (fun raw => (Double.read? raw.toList).map .float) raw
  rw [Option.isSome_map] at hok
  exact hok

/-- What the filter for integers decodes is an integer. -/
theorem exists_int_of_decode (h : Filter.int.decode raw = .ok v) : ∃ n, v = .int n := by
  have hok := isOk_decode_int raw
  rw [h] at hok
  obtain ⟨n, hn⟩ := Option.isSome_iff_exists.mp hok.symm
  rw [decode_int hn] at h
  cases h
  exact ⟨n, rfl⟩

/-- What the filter for floats decodes is a float. -/
theorem exists_float_of_decode (h : Filter.float.decode raw = .ok v) : ∃ x, v = .float x := by
  have hok := isOk_decode_float raw
  rw [h] at hok
  obtain ⟨x, hx⟩ := Option.isSome_iff_exists.mp hok.symm
  rw [decode_float hx] at h
  cases h
  exact ⟨x, rfl⟩

/-- Of what is accepted as an integer the texts of integers of 64 bits are decoded. -/
theorem isOk_decode_int_iff (h : Filter.int.accepts text = true) :
    (Filter.int.decode text).isOk = true ↔ Numeral.IsInt64Text text.toList := by
  rw [isOk_decode_int]
  constructor
  · intro hsome
    obtain ⟨negative, digits, htext, hne, hdigits⟩ := accepts_int_iff.mp h
    have hplain : ∀ c ∈ digits, Numeral.IsPlain c := by
      intro c hc
      exact isPlain_of_contains_digit (hdigits c hc)
    rw [htext, Numeral.isSome_readInt64?_iff hplain] at hsome
    exact ⟨negative, digits, htext, hsome⟩
  · rintro ⟨negative, digits, htext, hspells⟩
    have hplain : ∀ c ∈ digits, Numeral.IsPlain c := by
      intro c hc
      exact isPlain_of_isDigit (hspells.1.2 c hc)
    rw [htext, Numeral.isSome_readInt64?_iff hplain]
    exact hspells

/-- Of what is accepted as a float the texts of decimal numbers are decoded. -/
theorem isOk_decode_float_iff (h : Filter.float.accepts text = true) :
    (Filter.float.decode text).isOk = true ↔ Double.IsDecimalText text.toList := by
  rw [isOk_decode_float]
  constructor
  · intro hsome
    obtain ⟨negative, body, htext, hne, hbody⟩ := accepts_float_iff.mp h
    have hplain : ∀ c ∈ body, Numeral.IsPlain c := by
      intro c hc
      exact isPlain_of_digit_or_point (hbody c hc)
    rw [htext, Double.isSome_read?_iff hplain] at hsome
    exact ⟨negative, body, htext, hsome⟩
  · rintro ⟨negative, body, htext, hspells⟩
    have hplain : ∀ c ∈ body, Numeral.IsPlain c := by
      intro c hc
      exact isPlain_of_digit_or_point ((hspells.1 c hc).imp_left contains_digit)
    rw [htext, Double.isSome_read?_iff hplain]
    exact hspells

end Filter

end WebRouting
