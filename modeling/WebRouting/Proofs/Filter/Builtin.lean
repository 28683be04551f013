import WebRouting.Proofs.Number.PlainText
import WebRouting.Proofs.Regex.Language
import WebRouting.Proofs.Rule.Language

/-! # Built-in filters

The texts that a built-in filter accepts are those of its pattern (`accepts_string_iff`,
`accepts_int_iff`, `accepts_float_iff`): digits are those of every script there. The values that fit a
built-in filter are those that it can write as a segment of a path and read back (`Filter.Fits`). What is
written for such a value is accepted by the pattern of the filter (`Fits.accepts_encode`) and read as the
same value (`Fits.decode_encode`). No built-in filter reaches beyond a segment (`Fits.segmental`). -/

namespace WebRouting

open Regex Numeral

namespace Filter

/-! ## Filters for segments -/

/-- The filter is one for a single segment of a path: its pattern stands alone, matches no slash and
has no named groups. -/
structure Segmental (f : Filter) : Prop where
  /-- The pattern means something by itself. -/
  standsAlone : f.StandsAlone
  /-- No class of the pattern has a slash, and no group of it has a name. -/
  expression : ∀ r, parse? f.pattern.toList = some r → r.avoids '/' = true ∧ r.unnamed = true

instance (f : Filter) : Decidable f.Segmental :=
  decidable_of_iff (f.StandsAlone ∧
      (parse? f.pattern.toList).all (fun r => r.avoids '/' && r.unnamed) = true) <| by
    simp only [Option.all_eq_true, Bool.and_eq_true]
    exact ⟨fun h => ⟨h.1, h.2⟩, fun h => ⟨h.standsAlone, h.expression⟩⟩

/-- A filter for segments accepts no text with a slash in it. -/
theorem Segmental.not_mem_of_accepts {f : Filter} (hf : f.Segmental) {part : String}
    (h : f.accepts part = true) : '/' ∉ part.toList := by
  obtain ⟨r, hparse, -⟩ := hf.standsAlone.parses
  exact not_mem_of_avoids ((accepts_iff hparse part).mp h) (hf.expression r hparse).1

/-! ## Expressions of the built-in filters -/

/-- One or more characters of a class. -/
def someOf (allowed : CharClass) : Regex := .rep (.char allowed) 1 none true

/-- One or more characters of a class, after a minus or not. -/
def signedSomeOf (allowed : CharClass) : Regex :=
  .seq (.seq .empty (.rep (.char (.single '-')) 0 (some 1) true)) (someOf allowed)

variable {allowed : CharClass} {w : List Char}

/-- Some characters of a class are a text of its characters that is not empty. -/
theorem matches_someOf : (someOf allowed).Matches w ↔
    w ≠ [] ∧ ∀ x ∈ w, allowed.contains x = true := by
  rw [someOf, matches_rep_char]
  refine and_congr_left fun _ => ⟨?_, ?_⟩
  · rintro ⟨hleast, -⟩
    exact List.length_pos_iff.mp hleast
  · intro hne
    exact ⟨List.length_pos_iff.mpr hne, nofun⟩

/-- At most one minus is a sign, and a sign is at most one minus. -/
theorem isMinus_iff {sign : List Char} :
    (Regex.rep (.char (.single '-')) 0 (some 1) true).Matches sign ↔
      ∃ negative, sign = Double.signText negative := by
  rw [matches_rep_char]
  constructor
  · rintro ⟨⟨-, hmost⟩, hminus⟩
    have hone : sign.length ≤ 1 := hmost 1 rfl
    cases sign with
    | nil => exact ⟨false, rfl⟩
    | cons x rest =>
      have hx : x = '-' := contains_single.mp (hminus x List.mem_cons_self)
      have hrest : rest = [] := by
        rw [List.length_cons] at hone
        exact List.eq_nil_of_length_eq_zero (by omega)
      subst hx hrest
      exact ⟨true, rfl⟩
  · rintro ⟨negative, rfl⟩
    refine ⟨⟨Nat.zero_le _, ?_⟩, ?_⟩
    · intro m hm
      cases hm
      cases negative <;> decide
    · cases negative with
      | true => exact fun x hx => contains_single.mpr (List.mem_singleton.mp hx)
      | false => exact fun x hx => absurd hx List.not_mem_nil

/-- Some characters of a class after a minus or nothing. -/
theorem matches_signedSomeOf : (signedSomeOf allowed).Matches w ↔
    ∃ negative body, w = Double.signText negative ++ body ∧ body ≠ [] ∧
      ∀ x ∈ body, allowed.contains x = true := by
  have hminus : (Regex.rep (.char (.single '-')) 0 (some 1) true).AssertionFree := trivial
  have hsome : (someOf allowed).AssertionFree := trivial
  have hsign : (Regex.seq .empty (.rep (.char (.single '-')) 0 (some 1) true)).AssertionFree :=
    ⟨trivial, hminus⟩
  rw [signedSomeOf, matches_seq hsign hsome]
  simp only [matches_empty_seq hminus, isMinus_iff, matches_someOf]
  constructor
  · rintro ⟨u, body, rfl, ⟨negative, rfl⟩, hbody⟩
    exact ⟨negative, body, rfl, hbody⟩
  · rintro ⟨negative, body, rfl, hbody⟩
    exact ⟨_, body, rfl, ⟨negative, rfl⟩, hbody⟩

/-- What is not a slash. -/
def notSlash : CharClass := .compl (.union .empty (.single '/'))

/-- Digits and the point. -/
def digitOrPoint : CharClass := .union (.union .empty (.digit true)) (.single '.')

theorem parse?_string :
    parse? Filter.string.pattern.toList = some (.seq .empty (someOf notSlash)) := by cbv

theorem parse?_int : parse? Filter.int.pattern.toList = some (signedSomeOf (.digit true)) := by cbv

theorem parse?_float :
    parse? Filter.float.pattern.toList = some (signedSomeOf digitOrPoint) := by cbv

theorem contains_empty (x : Char) : CharClass.empty.contains x = false := by
  rw [CharClass.empty, CharClass.contains_range, Bool.and_eq_false_iff, decide_eq_false_iff_not,
    decide_eq_false_iff_not]
  -- the empty class is a range that runs downward
  by_contra hboth
  rw [not_or, not_not, not_not] at hboth
  exact absurd (Char.le_trans hboth.1 hboth.2) (by decide)

theorem contains_notSlash {x : Char} : notSlash.contains x = true ↔ x ≠ '/' := by
  have hslash : (CharClass.single '/').contains x = false ↔ x ≠ '/' := by
    rw [← Bool.not_eq_true, contains_single]
  rw [notSlash, CharClass.contains_compl, CharClass.contains_union, contains_empty, Bool.false_or,
    Bool.not_eq_true', hslash]

/-- The ASCII digits are among the digits of every script. -/
theorem contains_digit {c : Char} (h : c.isDigit = true) :
    (CharClass.digit true).contains c = true := by
  -- the ASCII digits are the first range of the table
  have hrange : (0x30, 0x39) ∈ Unicode.decimalNumber := List.mem_cons_self
  obtain ⟨hfirst, hlast⟩ := Rule.bounds_of_isDigit h
  exact Bool.and_eq_true_iff.mpr ⟨Ranges.covers_of_mem hrange hfirst hlast, rfl⟩

theorem contains_digitOrPoint {x : Char} :
    digitOrPoint.contains x = true ↔ (CharClass.digit true).contains x = true ∨ x = '.' := by
  rw [digitOrPoint, CharClass.contains_union, CharClass.contains_union, contains_empty,
    Bool.false_or, Bool.or_eq_true, contains_single]

/-! ## Accepted texts -/

/-- Any text but the empty one and one with a slash is accepted as text. -/
theorem accepts_string_iff {text : String} :
    Filter.string.accepts text = true ↔ text ≠ "" ∧ '/' ∉ text.toList := by
  have hsome : (someOf notSlash).AssertionFree := trivial
  rw [accepts_iff parse?_string, matches_empty_seq hsome, matches_someOf, Ne,
    String.toList_eq_nil_iff]
  simp only [contains_notSlash]
  refine and_congr_right fun _ => ⟨?_, ?_⟩
  · intro hall hslash
    exact hall '/' hslash rfl
  · rintro hslash x hx rfl
    exact hslash hx

/-- A minus or nothing before digits of any script is accepted as an integer. -/
theorem accepts_int_iff {text : String} : Filter.int.accepts text = true ↔
    ∃ negative digits, text.toList = Double.signText negative ++ digits ∧ digits ≠ [] ∧
      ∀ x ∈ digits, (CharClass.digit true).contains x = true := by
  rw [accepts_iff parse?_int, matches_signedSomeOf]

/-- A minus or nothing before digits of any script and points is accepted as a float. -/
theorem accepts_float_iff {text : String} : Filter.float.accepts text = true ↔
    ∃ negative body, text.toList = Double.signText negative ++ body ∧ body ≠ [] ∧
      ∀ x ∈ body, (CharClass.digit true).contains x = true ∨ x = '.' := by
  rw [accepts_iff parse?_float, matches_signedSomeOf]
  simp only [contains_digitOrPoint]

/-- The filter is one of the built-in ones. -/
def IsBuiltin (f : Filter) : Prop := f = .string ∨ f = .int ∨ f = .float

/-- The built-in filters are filters for segments. -/
theorem IsBuiltin.segmental {f : Filter} (h : f.IsBuiltin) : f.Segmental := by
  obtain rfl | rfl | rfl := h
  · decide +kernel
  · decide +kernel
  · decide +kernel

/-! ## Values that fit -/

/-- A value that a built-in filter can write as a segment: any text but the empty one and one with a
slash, any integer and any finite double. -/
inductive Fits : Filter → Value → Prop where
  /-- Text that is a segment by itself. -/
  | string {text : String} (hne : text ≠ "") (hslash : '/' ∉ text.toList) :
      Fits Filter.string (.string text)
  /-- An integer. -/
  | int (n : Int64) : Fits Filter.int (.int n)
  /-- A finite double. -/
  | float {x : Double} (hx : x.isFinite = true) : Fits Filter.float (.float x)

variable {f : Filter} {v : Value}

theorem Fits.segmental (h : f.Fits v) : f.Segmental := by
  cases h with
  | string => exact IsBuiltin.segmental (.inl rfl)
  | int => exact IsBuiltin.segmental (.inr (.inl rfl))
  | float => exact IsBuiltin.segmental (.inr (.inr rfl))

theorem toList_encode_int (n : Int64) :
    (Filter.int.encode (.int n)).toList = writeInt n.toInt := String.toList_ofList

theorem toList_encode_float (x : Double) :
    (Filter.float.encode (.float x)).toList = x.plainText := String.toList_ofList

/-- An integer is written as an optional minus and digits. -/
theorem writeInt_eq (n : Int) : writeInt n = Double.signText (n < 0) ++ writeNat n.natAbs := by
  rcases Int.lt_or_le n 0 with hn | hn
  · rw [writeInt_of_neg hn, decide_eq_true hn]
    rfl
  · rw [writeInt_of_nonneg hn, decide_eq_false (Int.not_lt.mpr hn)]
    rfl

theorem decode_int {raw : String} {n : Int64} (h : readInt64? raw.toList = some n) :
    Filter.int.decode raw = .ok (.int n) := by
  simp only [Filter.int, decodeInt, decodeWith, h, Option.map_some]

theorem decode_float {raw : String} {x : Double} (h : Double.read? raw.toList = some x) :
    Filter.float.decode raw = .ok (.float x) := by
  simp only [Filter.float, decodeFloat, decodeWith, h, Option.map_some]

/-- What a built-in filter writes for a value that fits it is accepted by its pattern. -/
theorem Fits.accepts_encode (h : f.Fits v) : f.accepts (f.encode v) = true := by
  cases h with
  | string hne hslash => exact accepts_string_iff.mpr ⟨hne, hslash⟩
  | int n =>
    rw [accepts_int_iff, toList_encode_int, writeInt_eq]
    refine ⟨_, _, rfl, writeNat_ne_nil _, ?_⟩
    intro x hx
    exact contains_digit (isDigit_of_mem_writeNat hx)
  | @float x hx =>
    obtain ⟨negative, body, hbody, hne, hchars⟩ := Double.exists_plainText_eq hx
    rw [accepts_float_iff, toList_encode_float]
    refine ⟨negative, body, hbody, hne, ?_⟩
    intro c hc
    exact (hchars c hc).imp_left contains_digit

/-- What a built-in filter writes for a value that fits it is read as this value. -/
theorem Fits.decode_encode (h : f.Fits v) : f.decode (f.encode v) = .ok v := by
  cases h with
  | string => rfl
  | int n => exact decode_int (by rw [toList_encode_int, readInt64?_writeInt])
  | float hx => exact decode_float (by rw [toList_encode_float, Double.read?_plainText hx])

end Filter

/-- The built-in filters and their names. -/
theorem Registry.find?_builtin (name : String) :
    Registry.builtin.find? name =
      if name = "float" then some .float
      else if name = "int" then some .int
      else if name = "str" ∨ name = "default" then some .string
      else none := by
  -- the filter registered last is looked up first
  by_cases hfloat : name = "float"
  · subst hfloat
    exact find?_register_self ..
  rw [builtin, find?_register_of_ne _ _ (Ne.symm hfloat), if_neg hfloat]
  by_cases hint : name = "int"
  · subst hint
    exact find?_register_self ..
  rw [find?_register_of_ne _ _ (Ne.symm hint), if_neg hint]
  by_cases hstr : name = "str"
  · subst hstr
    exact find?_register_self ..
  rw [find?_register_of_ne _ _ (Ne.symm hstr)]
  by_cases hdefault : name = "default"
  · subst hdefault
    exact find?_register_self ..
  rw [find?_register_of_ne _ _ (Ne.symm hdefault), if_neg (not_or.mpr ⟨hstr, hdefault⟩)]
  rfl

end WebRouting
