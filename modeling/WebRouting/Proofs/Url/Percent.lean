import Mathlib.Data.List.Infix
import WebRouting.Url.Percent

/-! # Percent decoding and marks

An ASCII character that is no part of an escape divides a text in the same way before and after
decoding: what is on its sides is decoded by itself (`percentDecode?_append_cons`). No byte of another
character looks like it (`mem_utf8EncodeChar_iff`), so without an escaped slash a text has as many slashes
as what it decodes to (`count_of_percentDecode?`). -/

namespace WebRouting.Url

variable {x c : Char} {cs u v : List Char} {a b : List UInt8} {text : String}

/-! ## UTF-8 -/

/-- The bytes of characters in UTF-8. -/
def utf8Bytes (cs : List Char) : List UInt8 := cs.flatMap String.utf8EncodeChar

@[simp] theorem utf8Bytes_nil : utf8Bytes [] = [] := rfl

@[simp] theorem utf8Bytes_cons (c : Char) (cs : List Char) :
    utf8Bytes (c :: cs) = String.utf8EncodeChar c ++ utf8Bytes cs := rfl

/-- An ASCII character is one byte. -/
theorem utf8EncodeChar_of_ascii (hx : x.toNat < 128) : String.utf8EncodeChar x = [x.toUInt8] := by
  have hsize : x.utf8Size = 1 := by
    rw [Char.utf8Size_eq_one_iff, UInt32.le_iff_toNat_le]
    exact Nat.le_of_lt_succ hx
  exact String.utf8EncodeChar_eq_singleton hsize

/-- The bytes of any other character are none of ASCII characters. -/
theorem le_of_mem_utf8EncodeChar {byte : UInt8} (hc : 128 ≤ c.toNat)
    (h : byte ∈ String.utf8EncodeChar c) : 128 ≤ byte.toNat := by
  have hlarge : ¬c.val.toNat ≤ 127 := Nat.not_le_of_lt hc
  rw [String.utf8EncodeChar, if_neg hlarge] at h
  -- two, three or four bytes, each of them marked by its highest bit
  split at h
  · simp only [List.mem_cons, List.not_mem_nil, or_false] at h
    rcases h with rfl | rfl <;> rw [UInt8.toNat_ofNat'] <;> omega
  · split at h
    · simp only [List.mem_cons, List.not_mem_nil, or_false] at h
      rcases h with rfl | rfl | rfl <;> rw [UInt8.toNat_ofNat'] <;> omega
    · simp only [List.mem_cons, List.not_mem_nil, or_false] at h
      rcases h with rfl | rfl | rfl | rfl <;> rw [UInt8.toNat_ofNat'] <;> omega

/-- The byte of an ASCII character is no byte of another character. -/
theorem mem_utf8EncodeChar_iff (hx : x.toNat < 128) :
    x.toUInt8 ∈ String.utf8EncodeChar c ↔ c = x := by
  have hbyte (y : Char) (hy : y.toNat < 128) : y.toUInt8.toNat = y.toNat :=
    Nat.mod_eq_of_lt (Nat.lt_trans hy (by decide))
  constructor
  · intro h
    rcases Nat.lt_or_ge c.toNat 128 with hc | hc
    · rw [utf8EncodeChar_of_ascii hc, List.mem_singleton] at h
      have htoNat : x.toNat = c.toNat := by rw [← hbyte x hx, h, hbyte c hc]
      exact (Char.toNat_inj.mp htoNat).symm
    · have hlarge := le_of_mem_utf8EncodeChar hc h
      rw [hbyte x hx] at hlarge
      exact absurd hx (Nat.not_lt.mpr hlarge)
  · rintro rfl
    rw [utf8EncodeChar_of_ascii hx]
    exact List.mem_singleton_self _

theorem count_utf8EncodeChar (hx : x.toNat < 128) (c : Char) :
    (String.utf8EncodeChar c).count x.toUInt8 = [c].count x := by
  by_cases hc : c = x
  · subst hc
    rw [utf8EncodeChar_of_ascii hx, List.count_singleton_self, List.count_singleton_self]
  · rw [List.count_eq_zero_of_not_mem (mt (mem_utf8EncodeChar_iff hx).mp hc),
      List.count_eq_zero_of_not_mem (mt List.mem_singleton.mp (Ne.symm hc))]

/-- An ASCII character stands as often among characters as its byte among theirs. -/
theorem count_utf8Bytes (hx : x.toNat < 128) (cs : List Char) :
    (utf8Bytes cs).count x.toUInt8 = cs.count x := by
  induction cs with
  | nil => rfl
  | cons c cs ih =>
    rw [utf8Bytes_cons, List.count_append, count_utf8EncodeChar hx, ih, ← List.count_append,
      List.singleton_append]

/-- The byte of an ASCII character divides bytes where the character divides their text. -/
theorem exists_of_utf8Bytes_eq (hx : x.toNat < 128) (h : utf8Bytes cs = a ++ x.toUInt8 :: b) :
    ∃ u v, cs = u ++ x :: v ∧ utf8Bytes u = a ∧ utf8Bytes v = b := by
  induction cs generalizing a with
  | nil => exact absurd h (by simp)
  | cons c cs ih =>
    rw [utf8Bytes_cons] at h
    rcases List.append_eq_append_iff.mp h with ⟨a', rfl, hrest⟩ | ⟨rest, hc, hrest⟩
    · obtain ⟨u, v, rfl, rfl, rfl⟩ := ih hrest
      exact ⟨c :: u, v, rfl, rfl, rfl⟩
    · cases rest with
      | nil =>
        obtain ⟨u, v, rfl, hu, rfl⟩ := ih (a := []) hrest.symm
        exact ⟨c :: u, v, rfl, by rw [utf8Bytes_cons, hu, hc, List.append_nil, List.append_nil], rfl⟩
      | cons y rest =>
        -- the byte is one of the first character, which is then the ASCII character itself
        obtain ⟨rfl, rfl⟩ := List.cons.inj hrest
        have hmem : x.toUInt8 ∈ String.utf8EncodeChar c := by
          rw [hc]
          exact List.mem_append_right _ List.mem_cons_self
        obtain rfl := (mem_utf8EncodeChar_iff hx).mp hmem
        rw [utf8EncodeChar_of_ascii hx] at hc
        obtain ⟨rfl, rfl⟩ : a = [] ∧ rest = [] := by
          cases a with
          | nil => exact ⟨rfl, (List.cons.inj hc).2.symm⟩
          | cons y a => cases a <;> cases hc
        exact ⟨[], cs, rfl, rfl, rfl⟩

/-! ## Decoding -/

/-- A text is decoded if the bytes that it stands for are those of characters. -/
theorem percentDecode?_eq_some_iff :
    percentDecode? cs = some text ↔ percentBytes cs = utf8Bytes text.toList := by
  have hbytes : percentBytes cs = utf8Bytes text.toList ↔
      (⟨(percentBytes cs).toArray⟩ : ByteArray) = text.toByteArray := by
    have htext : text.toByteArray = (utf8Bytes text.toList).toByteArray :=
      String.utf8Encode_toList.symm
    rw [htext, ByteArray.ext_iff, List.data_toByteArray, List.toArray_eq_iff]
  rw [percentDecode?, String.fromUTF8?, hbytes]
  constructor
  · intro h
    split at h
    · cases h
      rfl
    · cases h
  · intro h
    have hvalid : (⟨(percentBytes cs).toArray⟩ : ByteArray).IsValidUTF8 := h ▸ text.isValidUTF8
    rw [dif_pos hvalid, Option.some_inj]
    exact String.toByteArray_inj.mp h

/-- The codes of hexadecimal digits. -/
theorem toNat_of_hexValue? {n : Nat} (h : Numeral.hexValue? c = some n) :
    n < 10 ∧ c.toNat = n + 48 ∨ 10 ≤ n ∧ n < 16 ∧ (c.toNat = n + 55 ∨ c.toNat = n + 87) := by
  have hle (a b : Char) : a ≤ b ↔ a.toNat ≤ b.toNat := UInt32.le_iff_toNat_le
  have hcodes : '0'.toNat = 48 ∧ '9'.toNat = 57 ∧ 'A'.toNat = 65 ∧ 'F'.toNat = 70 ∧
      'a'.toNat = 97 ∧ 'f'.toNat = 102 := by decide
  simp only [Numeral.hexValue?, hle, hcodes] at h
  split at h
  · cases h
    omega
  · split at h
    · cases h
      omega
    · split at h
      · cases h
        omega
      · cases h

theorem hexByte?_of_high (hdigit : Numeral.hexValue? x = none) (low : Char) :
    hexByte? x low = none := by
  rw [hexByte?, hdigit]

theorem hexByte?_of_low (hdigit : Numeral.hexValue? x = none) (high : Char) :
    hexByte? high x = none := by
  rw [hexByte?, hdigit]
  cases Numeral.hexValue? high <;> rfl

/-- A character with which no escape starts stands for itself. -/
theorem percentBytes_cons
    (h : ∀ high low rest, c = '%' → cs = high :: low :: rest → hexByte? high low = none) :
    percentBytes (c :: cs) = String.utf8EncodeChar c ++ percentBytes cs := by
  by_cases hc : c = '%'
  · subst hc
    cases cs with
    | nil => rfl
    | cons high cs =>
      cases cs with
      | nil => rfl
      | cons low rest =>
        rw [percentBytes, h high low rest rfl rfl]
        rfl
  · rw [percentBytes]
    exact fun _ _ _ hmark => absurd hmark hc

/-- A character that is no mark of an escape and no digit in one divides a text in the same way as what it
stands for. -/
theorem percentBytes_append_cons (hdigit : Numeral.hexValue? x = none) (hmark : x ≠ '%')
    (u v : List Char) :
    percentBytes (u ++ x :: v) = percentBytes u ++ (String.utf8EncodeChar x ++ percentBytes v) := by
  fun_induction percentBytes u with
  | case1 => exact percentBytes_cons fun _ _ _ hx => absurd hx hmark
  | case2 high low cs byte hbyte ih =>
    rw [List.cons_append, List.cons_append, List.cons_append, percentBytes, hbyte]
    exact congrArg (byte :: ·) ih
  | case3 high low cs hbyte ih =>
    rw [List.cons_append, List.cons_append, List.cons_append, percentBytes, hbyte]
    exact congrArg ('%'.toUInt8 :: ·) ih
  | case4 c cs hother ih =>
    rw [List.cons_append, List.append_assoc, ← ih]
    refine percentBytes_cons fun high low rest hc hcs => ?_
    -- what would be an escape has the character in it
    cases cs with
    | nil =>
      obtain ⟨rfl, -⟩ := List.cons.inj hcs
      exact hexByte?_of_high hdigit low
    | cons y cs =>
      cases cs with
      | nil =>
        obtain ⟨-, hcs⟩ := List.cons.inj hcs
        obtain ⟨rfl, -⟩ := List.cons.inj hcs
        exact hexByte?_of_low hdigit high
      | cons z cs => exact (hother y z cs hc rfl).elim

/-- What is on the sides of such a character is decoded by itself. -/
theorem percentDecode?_append_cons (hdigit : Numeral.hexValue? x = none) (hmark : x ≠ '%')
    (hx : x.toNat < 128) (h : percentDecode? (u ++ x :: v) = some text) :
    ∃ first second, percentDecode? u = some first ∧ percentDecode? v = some second ∧
      text.toList = first.toList ++ x :: second.toList := by
  rw [percentDecode?_eq_some_iff, percentBytes_append_cons hdigit hmark,
    utf8EncodeChar_of_ascii hx, List.singleton_append] at h
  obtain ⟨first, second, htext, hfirst, hsecond⟩ := exists_of_utf8Bytes_eq hx h.symm
  refine ⟨String.ofList first, String.ofList second, ?_, ?_, ?_⟩
  · rw [percentDecode?_eq_some_iff, String.toList_ofList, hfirst]
  · rw [percentDecode?_eq_some_iff, String.toList_ofList, hsecond]
  · rw [String.toList_ofList, String.toList_ofList, htext]

/-! ## Escaped slashes -/

/-- An escaped slash stands somewhere in the text. -/
def EscapesSlash (cs : List Char) : Prop := ['%', '2', 'F'] <:+: cs ∨ ['%', '2', 'f'] <:+: cs

theorem EscapesSlash.cons (h : EscapesSlash cs) (c : Char) : EscapesSlash (c :: cs) :=
  h.imp (List.infix_cons ·) (List.infix_cons ·)

/-- A slash is escaped by nothing but its code. -/
theorem eq_of_hexByte? {high low : Char} (h : hexByte? high low = some '/'.toUInt8) :
    high = '2' ∧ (low = 'F' ∨ low = 'f') := by
  rw [hexByte?] at h
  split at h
  · next h₁ l₁ hhigh hlow =>
    have hbyte : (16 * h₁ + l₁) % 2 ^ 8 = 47 :=
      (UInt8.ofNat_eq_iff_mod_eq_toNat _ _).mp (Option.some.inj h)
    have hhigh := toNat_of_hexValue? hhigh
    have hlow := toNat_of_hexValue? hlow
    have hcodes : '2'.toNat = 50 ∧ 'F'.toNat = 70 ∧ 'f'.toNat = 102 := by decide
    simp only [← Char.toNat_inj, hcodes]
    omega
  · cases h

/-- An escape has no other characters in it than digits. -/
theorem ne_of_hexByte? {high low : Char} {byte : UInt8} (hdigit : Numeral.hexValue? x = none)
    (h : hexByte? high low = some byte) : high ≠ x ∧ low ≠ x := by
  constructor
  · rintro rfl
    rw [hexByte?_of_high hdigit] at h
    cases h
  · rintro rfl
    rw [hexByte?_of_low hdigit] at h
    cases h

/-- Without an escaped slash a text stands for as many slashes as it has. -/
theorem count_percentBytes (h : ¬EscapesSlash cs) :
    (percentBytes cs).count '/'.toUInt8 = cs.count '/' := by
  fun_induction percentBytes cs with
  | case1 => rfl
  | case2 high low cs byte hbyte ih =>
    obtain ⟨hhigh, hlow⟩ := ne_of_hexByte? (by decide : Numeral.hexValue? '/' = none) hbyte
    have hne : byte ≠ '/'.toUInt8 := by
      rintro rfl
      obtain ⟨rfl, rfl | rfl⟩ := eq_of_hexByte? hbyte
      · exact h (.inl ⟨[], cs, rfl⟩)
      · exact h (.inr ⟨[], cs, rfl⟩)
    rw [List.count_cons_of_ne hne, ih fun hcs => h (((hcs.cons low).cons high).cons '%'),
      List.count_cons_of_ne (by decide), List.count_cons_of_ne hhigh, List.count_cons_of_ne hlow]
  | case3 high low cs hbyte ih =>
    have hbyteMark : '%'.toUInt8 ≠ '/'.toUInt8 := by decide
    have hmark : '%' ≠ '/' := by decide
    rw [List.count_cons_of_ne hbyteMark, ih fun hcs => h (hcs.cons '%')]
    exact (List.count_cons_of_ne hmark).symm
  | case4 c cs hother ih =>
    rw [List.count_append, count_utf8EncodeChar (by decide), ih fun hcs => h (hcs.cons c),
      ← List.count_append, List.singleton_append]

/-- Decoding a text without an escaped slash keeps the number of slashes. -/
theorem count_of_percentDecode? (hslash : ¬EscapesSlash cs) (h : percentDecode? cs = some text) :
    text.toList.count '/' = cs.count '/' := by
  have hx : '/'.toNat < 128 := by decide
  rw [← count_percentBytes hslash, percentDecode?_eq_some_iff.mp h, count_utf8Bytes hx]

end WebRouting.Url
