import WebRouting.Proofs.Url.Spelling
import WebRouting.Url.Query

/-! # Keys and values of queries

A key or a value stands for bytes: a plus sign for a space, an escape for its byte, and every other
character for itself (`FormBytes`). If the bytes are those of a text, this text is stored; if not, the
key or value itself is, with spaces in place of its plus signs (`stores_iff`). A text can be spelled
with escapes of any of its characters and with plus signs for its spaces (`SpellsComponent`), and each
spelling stands for the bytes of the text (`SpellsComponent.formBytes`). -/

namespace WebRouting.Url

variable {c : Char} {cs raw part : List Char} {bytes : List UInt8} {text : String}

/-! ## Hexadecimal digits -/

/-- Two characters are the hexadecimal digits of a byte, each of either case. -/
def EscapesByte (byte : UInt8) (high low : Char) : Prop :=
  IsHexDigit (byte.toNat / 16) high ∧ IsHexDigit (byte.toNat % 16) low

/-- What is read as a hexadecimal digit is one. -/
theorem isHexDigit_of_hexValue? {n : Nat} (h : Numeral.hexValue? c = some n) :
    n < 16 ∧ IsHexDigit n c := by
  have hdigits : ∀ n < 16, n.digitChar.toNat = (if n < 10 then n + 48 else n + 87) ∧
      n.digitChar.toUpper.toNat = if n < 10 then n + 48 else n + 55 := by decide
  have hcode := toNat_of_hexValue? h
  have hn : n < 16 := by omega
  obtain ⟨hlower, hupper⟩ := hdigits n hn
  refine ⟨hn, ?_⟩
  rw [IsHexDigit, ← Char.toNat_inj, ← Char.toNat_inj, hlower, hupper]
  split <;> omega

theorem hexByte?_eq_some_iff {high low : Char} {byte : UInt8} :
    hexByte? high low = some byte ↔ EscapesByte byte high low := by
  refine ⟨fun h => ?_, fun h => hexByte?_of_isHexDigit h.1 h.2⟩
  rw [hexByte?] at h
  split at h
  · next n m hhigh hlow =>
    obtain ⟨hn, hhigh⟩ := isHexDigit_of_hexValue? hhigh
    obtain ⟨hm, hlow⟩ := isHexDigit_of_hexValue? hlow
    obtain rfl := Option.some.inj h
    have hbyte : (UInt8.ofNat (16 * n + m)).toNat = 16 * n + m := by
      rw [UInt8.toNat_ofNat']
      omega
    have hdiv : (16 * n + m) / 16 = n := by omega
    have hmod : (16 * n + m) % 16 = m := by omega
    rw [EscapesByte, hbyte, hdiv, hmod]
    exact ⟨hhigh, hlow⟩
  · cases h

theorem hexByte?_eq_none {high low : Char} (h : ∀ byte, ¬EscapesByte byte high low) :
    hexByte? high low = none :=
  Option.eq_none_iff_forall_ne_some.mpr fun byte hbyte => h byte (hexByte?_eq_some_iff.mp hbyte)

/-! ## Bytes -/

/-- The bytes that a key or a value stands for. -/
inductive FormBytes : List Char → List UInt8 → Prop where
  /-- Nothing stands for nothing. -/
  | nil : FormBytes [] []
  /-- A plus sign stands for a space. -/
  | plus {cs : List Char} {bytes : List UInt8} (h : FormBytes cs bytes) :
      FormBytes ('+' :: cs) (' '.toUInt8 :: bytes)
  /-- A percent sign and the two digits of a byte stand for the byte. -/
  | escape {high low : Char} {cs : List Char} {byte : UInt8} {bytes : List UInt8}
      (hdigits : EscapesByte byte high low) (h : FormBytes cs bytes) :
      FormBytes ('%' :: high :: low :: cs) (byte :: bytes)
  /-- A percent sign that is not followed by two digits stands for itself. -/
  | percent {cs : List Char} {bytes : List UInt8}
      (hdigits : ∀ high low rest byte, cs = high :: low :: rest → ¬EscapesByte byte high low)
      (h : FormBytes cs bytes) : FormBytes ('%' :: cs) ('%'.toUInt8 :: bytes)
  /-- Any other character stands for its bytes. -/
  | other {c : Char} {cs : List Char} {bytes : List UInt8} (hplus : c ≠ '+') (hmark : c ≠ '%')
      (h : FormBytes cs bytes) : FormBytes (c :: cs) (String.utf8EncodeChar c ++ bytes)

/-- Every text stands for some bytes. -/
theorem exists_formBytes (cs : List Char) : ∃ bytes, FormBytes cs bytes := by
  fun_induction percentBytes cs with
  | case1 => exact ⟨[], .nil⟩
  | case2 high low cs byte hbyte ih =>
    obtain ⟨bytes, hbytes⟩ := ih
    exact ⟨_, .escape (hexByte?_eq_some_iff.mp hbyte) hbytes⟩
  | case3 high low cs hbyte ih =>
    obtain ⟨bytes, hbytes⟩ := ih
    refine ⟨_, .percent ?_ hbytes⟩
    rintro _ _ _ byte ⟨⟩ hdigits
    rw [hexByte?_eq_some_iff.mpr hdigits] at hbyte
    cases hbyte
  | case4 c cs hother ih =>
    obtain ⟨bytes, hbytes⟩ := ih
    by_cases hplus : c = '+'
    · subst hplus
      exact ⟨_, .plus hbytes⟩
    · by_cases hmark : c = '%'
      · subst hmark
        refine ⟨_, .percent ?_ hbytes⟩
        intro high low rest byte hcs
        exact (hother high low rest rfl hcs).elim
      · exact ⟨_, .other hplus hmark hbytes⟩

/-- A space for a plus sign. -/
def plusToSpace (c : Char) : Char := if c = '+' then ' ' else c

theorem plusToSpace_of_ne (h : c ≠ '+') : plusToSpace c = c := if_neg h

/-- A plus sign is no more of a digit than a space is. -/
theorem hexValue?_plusToSpace (c : Char) :
    Numeral.hexValue? (plusToSpace c) = Numeral.hexValue? c := by
  by_cases hc : c = '+'
  · subst hc
    rfl
  · rw [plusToSpace_of_ne hc]

theorem hexByte?_plusToSpace (high low : Char) :
    hexByte? (plusToSpace high) (plusToSpace low) = hexByte? high low := by
  rw [hexByte?, hexByte?, hexValue?_plusToSpace, hexValue?_plusToSpace]

/-- Replacing plus signs first and escapes afterwards gives the bytes that the text stands for: there
are no plus signs in escapes, and the spaces that are put in make none. -/
theorem FormBytes.percentBytes_eq (h : FormBytes cs bytes) :
    percentBytes (cs.map plusToSpace) = bytes := by
  induction h with
  | nil => rfl
  | @plus cs bytes _ ih =>
    have hspace : percentBytes (' ' :: cs.map plusToSpace) =
        String.utf8EncodeChar ' ' ++ percentBytes (cs.map plusToSpace) :=
      percentBytes_cons fun _ _ _ hmark => absurd hmark (by decide)
    rw [List.map_cons, plusToSpace, if_pos rfl, hspace, ih]
    rfl
  | @escape high low cs byte bytes hdigits _ ih =>
    have hbyte : hexByte? (plusToSpace high) (plusToSpace low) = some byte := by
      rw [hexByte?_plusToSpace, hexByte?_eq_some_iff]
      exact hdigits
    rw [List.map_cons, List.map_cons, List.map_cons, plusToSpace_of_ne (by decide), percentBytes, hbyte]
    exact congrArg (byte :: ·) ih
  | @percent cs bytes hdigits _ ih =>
    rw [List.map_cons, plusToSpace_of_ne (by decide), percentBytes_cons, ih]
    · rfl
    · intro high low rest _ hcs
      obtain ⟨x, others, rfl, rfl, hothers⟩ := List.map_eq_cons_iff.mp hcs
      obtain ⟨y, others, rfl, rfl, -⟩ := List.map_eq_cons_iff.mp hothers
      rw [hexByte?_plusToSpace]
      exact hexByte?_eq_none fun byte => hdigits x y others byte rfl
  | @other c cs bytes hplus hmark _ ih =>
    rw [List.map_cons, plusToSpace_of_ne hplus, percentBytes_cons fun _ _ _ hc => absurd hc hmark, ih]

theorem formBytes_iff : FormBytes cs bytes ↔ percentBytes (cs.map plusToSpace) = bytes := by
  refine ⟨FormBytes.percentBytes_eq, fun h => ?_⟩
  obtain ⟨bytes', hbytes⟩ := exists_formBytes cs
  rwa [← h, hbytes.percentBytes_eq]

theorem FormBytes.unique {others : List UInt8} (h : FormBytes cs bytes)
    (hothers : FormBytes cs others) : bytes = others :=
  h.percentBytes_eq.symm.trans hothers.percentBytes_eq

/-! ## Storing -/

/-- What is stored for a key or a value, given what is kept of one that does not stand for a text. -/
inductive Stores (kept : List Char → List Char) (raw : List Char) : String → Prop where
  /-- The text for whose bytes it stands. -/
  | decoded {text : String} (h : FormBytes raw (utf8Bytes text.toList)) : Stores kept raw text
  /-- If there is no such text, what is kept. -/
  | undecoded {bytes : List UInt8} (h : FormBytes raw bytes)
      (htext : ∀ text : String, bytes ≠ utf8Bytes text.toList) :
      Stores kept raw (String.ofList (kept raw))

/-- The key or value stands for a text. -/
def Decodes (raw : List Char) : Prop := ∃ text : String, FormBytes raw (utf8Bytes text.toList)

theorem percentDecode?_map_eq_some_iff :
    percentDecode? (raw.map plusToSpace) = some text ↔ FormBytes raw (utf8Bytes text.toList) := by
  rw [percentDecode?_eq_some_iff, formBytes_iff]

theorem stores_of_eq_some (kept : List Char → List Char)
    (h : percentDecode? (raw.map plusToSpace) = some text) : Stores kept raw text :=
  .decoded (percentDecode?_map_eq_some_iff.mp h)

theorem stores_of_eq_none (kept : List Char → List Char)
    (h : percentDecode? (raw.map plusToSpace) = none) :
    Stores kept raw (String.ofList (kept raw)) := by
  refine .undecoded (formBytes_iff.mpr rfl) fun text htext => ?_
  rw [percentDecode?_eq_some_iff.mpr htext] at h
  cases h

/-- What is stored is one text. -/
theorem Stores.unique {kept : List Char → List Char} {other : String} (h : Stores kept raw text)
    (hother : Stores kept raw other) : text = other := by
  cases h with
  | decoded htext =>
    cases hother with
    | decoded hother =>
      have hdecode := percentDecode?_map_eq_some_iff.mpr htext
      rw [percentDecode?_map_eq_some_iff.mpr hother] at hdecode
      exact (Option.some.inj hdecode).symm
    | undecoded hbytes hnone => exact absurd (hbytes.unique htext) (hnone text)
  | undecoded hbytes hnone =>
    cases hother with
    | decoded hother => exact absurd (hbytes.unique hother) (hnone other)
    | undecoded => rfl

/-- A key or value that stands for no text is kept with spaces in place of plus signs. -/
theorem stores_iff : Stores (List.map plusToSpace) raw text ↔ decodeComponent raw = text := by
  have hstores : Stores (List.map plusToSpace) raw (decodeComponent raw) := by
    show Stores _ raw
      ((percentDecode? (raw.map plusToSpace)).getD (String.ofList (raw.map plusToSpace)))
    cases hdecode : percentDecode? (raw.map plusToSpace) with
    | some decoded => exact stores_of_eq_some _ hdecode
    | none => exact stores_of_eq_none _ hdecode
  constructor
  · intro h
    exact hstores.unique h
  · rintro rfl
    exact hstores

/-- A key or value that stands for no text is kept as it is if it has no plus signs. -/
theorem Stores.as_arrived (h : Stores (List.map plusToSpace) raw text)
    (hplus : '+' ∈ raw → Decodes raw) : Stores id raw text := by
  cases h with
  | decoded htext => exact .decoded htext
  | @undecoded bytes hbytes htext =>
    have hnone : '+' ∉ raw := by
      intro hmem
      obtain ⟨text, hdecodes⟩ := hplus hmem
      exact htext text (hbytes.unique hdecodes)
    have hsame : raw.map plusToSpace = raw.map id :=
      List.map_congr_left fun c hc => plusToSpace_of_ne fun h => hnone (h ▸ hc)
    rw [hsame, List.map_id]
    exact .undecoded hbytes htext

/-! ## Spelling -/

/-- How a character of a key or a value is spelled. -/
inductive SpellsFormChar : Char → List Char → Prop where
  /-- A space may be written as a plus sign. -/
  | plus : SpellsFormChar ' ' ['+']
  /-- A character without a meaning of its own may stand as it is. -/
  | raw {c : Char} (h : c ∉ ['%', '&', '=', '+']) : SpellsFormChar c [c]
  /-- The bytes of a character may be escaped. -/
  | escaped {c : Char} {part : List Char} (h : Escapes (String.utf8EncodeChar c) part) :
      SpellsFormChar c part

/-- How a key or a value is spelled, character by character. -/
def SpellsComponent (text : String) (raw : List Char) : Prop :=
  ∃ parts, List.Forall₂ SpellsFormChar text.toList parts ∧ raw = parts.flatten

theorem formBytes_append_of_escapes {others : List UInt8} (h : Escapes bytes part)
    (hrest : FormBytes cs others) : FormBytes (part ++ cs) (bytes ++ others) := by
  induction h with
  | nil => exact hrest
  | cons hhigh hlow _ ih => exact .escape ⟨hhigh, hlow⟩ ih

/-- A spelled character stands for its bytes. -/
theorem SpellsFormChar.formBytes_append (h : SpellsFormChar c part) (hrest : FormBytes cs bytes) :
    FormBytes (part ++ cs) (String.utf8EncodeChar c ++ bytes) := by
  cases h with
  | plus => exact .plus hrest
  | raw hspecial =>
    simp only [List.mem_cons, List.not_mem_nil, or_false, not_or] at hspecial
    obtain ⟨hmark, -, -, hplus⟩ := hspecial
    exact .other hplus hmark hrest
  | escaped hescapes => exact formBytes_append_of_escapes hescapes hrest

/-- A spelling stands for the bytes of the text. -/
theorem SpellsComponent.formBytes (h : SpellsComponent text raw) :
    FormBytes raw (utf8Bytes text.toList) := by
  obtain ⟨parts, hparts, rfl⟩ := h
  generalize text.toList = cs at hparts ⊢
  induction hparts with
  | nil => exact .nil
  | cons hfirst _ ih => exact hfirst.formBytes_append ih

/-- In escapes there is no other character than percent signs and digits. -/
theorem not_mem_of_escapes {x : Char} (hmark : x ≠ '%') (hdigit : Numeral.hexValue? x = none)
    (h : Escapes bytes part) : x ∉ part := by
  induction h with
  | nil => exact List.not_mem_nil
  | @cons byte high low bytes cs hhigh hlow _ ih =>
    obtain ⟨hhigh, hlow⟩ := ne_of_hexByte? hdigit (hexByte?_of_isHexDigit hhigh hlow)
    simp only [List.mem_cons, not_or]
    exact ⟨hmark, Ne.symm hhigh, Ne.symm hlow, ih⟩

theorem SpellsFormChar.not_mem {x : Char} (hx : x = '&' ∨ x = '=') (h : SpellsFormChar c part) :
    x ∉ part := by
  cases h with
  | plus => rcases hx with rfl | rfl <;> decide
  | raw hspecial =>
    intro hmem
    obtain rfl := List.mem_singleton.mp hmem
    rcases hx with rfl | rfl <;> exact hspecial (by decide)
  | escaped hescapes =>
    rcases hx with rfl | rfl <;> exact not_mem_of_escapes (by decide) (by decide) hescapes

/-- The marks between keys, values and pairs are in no spelling. -/
theorem SpellsComponent.not_mem {x : Char} (hx : x = '&' ∨ x = '=') (h : SpellsComponent text raw) :
    x ∉ raw := by
  obtain ⟨parts, hparts, rfl⟩ := h
  generalize text.toList = cs at hparts
  induction hparts with
  | nil => exact List.not_mem_nil
  | cons hfirst _ ih =>
    rw [List.flatten_cons, List.mem_append, not_or]
    exact ⟨hfirst.not_mem hx, ih⟩

theorem exists_escapes (bytes : List UInt8) : ∃ part, Escapes bytes part := by
  induction bytes with
  | nil => exact ⟨[], .nil⟩
  | cons byte bytes ih =>
    obtain ⟨part, hpart⟩ := ih
    exact ⟨_, .cons (.inl rfl) (.inl rfl) hpart⟩

/-- Every text has a spelling, in which all is escaped. -/
theorem exists_spellsComponent (text : String) : ∃ raw, SpellsComponent text raw := by
  have hparts (cs : List Char) : ∃ parts, List.Forall₂ SpellsFormChar cs parts := by
    induction cs with
    | nil => exact ⟨[], .nil⟩
    | cons c cs ih =>
      obtain ⟨parts, hparts⟩ := ih
      obtain ⟨part, hpart⟩ := exists_escapes (String.utf8EncodeChar c)
      exact ⟨part :: parts, .cons (.escaped hpart) hparts⟩
  obtain ⟨parts, hparts⟩ := hparts text.toList
  exact ⟨parts.flatten, parts, hparts, rfl⟩

end WebRouting.Url
