import Mathlib.Data.List.Forall2
import WebRouting.Proofs.Url.Path

/-! # Spelled paths

A path can be spelled in many ways: slashes stand as they are, percent signs are escaped, and every
other character stands as it is or as the escapes of its bytes, with hexadecimal digits of either case
(`Spells`). Decoding any spelling gives the path (`decodePath_of_spells`). A spelling stands for the
bytes of the path and no others (`percentBytes_append_of_spellsChar`), and nothing in it is cut off, for
no escape in it is that of a slash (`cut_append_of_spellsChar`). -/

namespace WebRouting.Url

variable {c : Char} {part : List Char} {bytes : List UInt8}

/-! ## Escapes -/

/-- The character is a hexadecimal digit for a number, of either case. -/
def IsHexDigit (n : Nat) (c : Char) : Prop := c = n.digitChar ∨ c = n.digitChar.toUpper

instance (n : Nat) (c : Char) : Decidable (IsHexDigit n c) := instDecidableOr

/-- Bytes and an escape for each of them. -/
inductive Escapes : List UInt8 → List Char → Prop where
  /-- Nothing is escaped. -/
  | nil : Escapes [] []
  /-- A percent sign and two digits stand for a byte. -/
  | cons {byte : UInt8} {high low : Char} {bytes : List UInt8} {cs : List Char}
      (hhigh : IsHexDigit (byte.toNat / 16) high) (hlow : IsHexDigit (byte.toNat % 16) low)
      (h : Escapes bytes cs) : Escapes (byte :: bytes) ('%' :: high :: low :: cs)

theorem hexValue?_of_isHexDigit {n : Nat} (hn : n < 16) (h : IsHexDigit n c) :
    Numeral.hexValue? c = some n := by
  have hdigits : ∀ n < 16, Numeral.hexValue? n.digitChar = some n ∧
      Numeral.hexValue? n.digitChar.toUpper = some n := by decide
  rcases h with rfl | rfl
  · exact (hdigits n hn).1
  · exact (hdigits n hn).2

theorem hexByte?_of_isHexDigit {byte : UInt8} {high low : Char}
    (hhigh : IsHexDigit (byte.toNat / 16) high) (hlow : IsHexDigit (byte.toNat % 16) low) :
    hexByte? high low = some byte := by
  have hbyte : byte.toNat < 256 := byte.toNat_lt
  rw [hexByte?, hexValue?_of_isHexDigit (by omega) hhigh, hexValue?_of_isHexDigit (by omega) hlow]
  dsimp only
  rw [Nat.div_add_mod, UInt8.ofNat_toNat]

/-- Escapes stand for the bytes. -/
theorem percentBytes_append_of_escapes (h : Escapes bytes part) (rest : List Char) :
    percentBytes (part ++ rest) = bytes ++ percentBytes rest := by
  induction h with
  | nil => rfl
  | @cons byte high low bytes cs hhigh hlow _ ih =>
    rw [List.cons_append, List.cons_append, List.cons_append, percentBytes,
      hexByte?_of_isHexDigit hhigh hlow]
    exact congrArg (byte :: ·) ih

/-- The escape of another byte than that of a slash belongs to the piece of what follows. -/
theorem cut_escape {byte : UInt8} {high low : Char} (h : hexByte? high low = some byte)
    (hbyte : byte ≠ '/'.toUInt8) (rest : List Char) :
    cut ('%' :: high :: low :: rest) = (cut rest).prepend ['%', high, low] := by
  obtain ⟨hhigh, hlow⟩ := ne_of_hexByte? (by decide : Numeral.hexValue? '%' = none) h
  have hfirst (f : Char) (others : List Char) (hf : f = 'F' ∨ f = 'f') (_ : '%' = '%')
      (heq : high :: low :: rest = '2' :: f :: others) : False := by
    obtain ⟨rfl, hrest⟩ := List.cons.inj heq
    obtain ⟨rfl, -⟩ := List.cons.inj hrest
    have hslash : hexByte? '2' low = some '/'.toUInt8 := by
      rcases hf with rfl | rfl <;> decide
    exact hbyte (Option.some.inj (h.symm.trans hslash))
  rw [cut_cons hfirst, cut_cons fun _ _ _ hmark _ => hhigh hmark,
    cut_cons fun _ _ _ hmark _ => hlow hmark, Cut.prepend_prepend, Cut.prepend_prepend]
  rfl

theorem cut_append_of_escapes (h : Escapes bytes part) (hslash : '/'.toUInt8 ∉ bytes)
    (rest : List Char) : cut (part ++ rest) = (cut rest).prepend part := by
  induction h with
  | nil => exact (Cut.prepend_nil _).symm
  | @cons byte high low bytes cs hhigh hlow _ ih =>
    obtain ⟨hbyte, hbytes⟩ := List.ne_and_not_mem_of_not_mem_cons hslash
    have hescape := cut_escape (hexByte?_of_isHexDigit hhigh hlow) (Ne.symm hbyte) (cs ++ rest)
    rw [List.cons_append, List.cons_append, List.cons_append, hescape, ih hbytes, Cut.prepend_prepend]
    rfl

/-! ## Spellings -/

/-- How a character of a path is spelled. -/
inductive SpellsChar : Char → List Char → Prop where
  /-- A slash stands as it is. -/
  | slash : SpellsChar '/' ['/']
  /-- A percent sign is escaped. -/
  | percent : SpellsChar '%' ['%', '2', '5']
  /-- Any other character may stand as it is. -/
  | raw {c : Char} (hslash : c ≠ '/') (hmark : c ≠ '%') : SpellsChar c [c]
  /-- The bytes of any other character may be escaped. -/
  | escaped {c : Char} {part : List Char} (hslash : c ≠ '/') (hmark : c ≠ '%')
      (h : Escapes (String.utf8EncodeChar c) part) : SpellsChar c part

/-- How a path is spelled, character by character. -/
def Spells (text raw : String) : Prop :=
  ∃ parts, List.Forall₂ SpellsChar text.toList parts ∧ raw.toList = parts.flatten

/-- A character stands as it is, unless it is a percent sign, or is escaped, unless it is a slash. -/
theorem SpellsChar.raw_or_escapes (h : SpellsChar c part) :
    (c ≠ '%' ∧ part = [c]) ∨ (c ≠ '/' ∧ Escapes (String.utf8EncodeChar c) part) := by
  cases h with
  | slash => exact .inl ⟨by decide, rfl⟩
  | percent =>
    have hbytes : String.utf8EncodeChar '%' = [0x25] := by decide
    rw [hbytes]
    exact .inr ⟨by decide, .cons (by decide) (by decide) .nil⟩
  | raw hslash hmark => exact .inl ⟨hmark, rfl⟩
  | escaped hslash hmark h => exact .inr ⟨hslash, h⟩

/-- A spelled character stands for its bytes. -/
theorem percentBytes_append_of_spellsChar (h : SpellsChar c part) (rest : List Char) :
    percentBytes (part ++ rest) = String.utf8EncodeChar c ++ percentBytes rest := by
  rcases h.raw_or_escapes with ⟨hmark, rfl⟩ | ⟨-, hescapes⟩
  · exact percentBytes_cons fun _ _ _ hc => absurd hc hmark
  · exact percentBytes_append_of_escapes hescapes rest

/-- A spelled character belongs to the piece of what follows. -/
theorem cut_append_of_spellsChar (h : SpellsChar c part) (rest : List Char) :
    cut (part ++ rest) = (cut rest).prepend part := by
  rcases h.raw_or_escapes with ⟨hmark, rfl⟩ | ⟨hslash, hescapes⟩
  · exact cut_cons fun _ _ _ hc => absurd hc hmark
  · exact cut_append_of_escapes hescapes (mt (mem_utf8EncodeChar_iff (by decide)).mp hslash) rest

variable {text : List Char} {parts : List (List Char)}

/-- A spelling is one piece. -/
theorem cut_flatten (h : List.Forall₂ SpellsChar text parts) :
    cut parts.flatten = .last parts.flatten := by
  induction h with
  | nil => rfl
  | cons hfirst _ ih => rw [List.flatten_cons, cut_append_of_spellsChar hfirst, ih, Cut.prepend]

/-- A spelling stands for the bytes of the text. -/
theorem percentBytes_flatten (h : List.Forall₂ SpellsChar text parts) :
    percentBytes parts.flatten = utf8Bytes text := by
  induction h with
  | nil => rfl
  | cons hfirst _ ih =>
    rw [List.flatten_cons, percentBytes_append_of_spellsChar hfirst, ih, utf8Bytes_cons]

/-- Every text has a spelling, in which nothing is escaped but percent signs. -/
theorem exists_spells (text : String) : ∃ raw, Spells text raw := by
  have hparts : List.Forall₂ SpellsChar text.toList
      (text.toList.map fun c => if c = '%' then ['%', '2', '5'] else [c]) := by
    refine List.forall₂_map_right_iff.mpr (List.forall₂_same.mpr fun c _ => ?_)
    split
    · next hmark => exact hmark ▸ .percent
    · next hmark =>
      by_cases hslash : c = '/'
      · exact hslash ▸ .slash
      · exact .raw hslash hmark
  exact ⟨String.ofList _, _, hparts, String.toList_ofList⟩

/-- **Decoding undoes spelling.** A path is what any spelling of it is decoded to, and every text has a
spelling. So every text can be asked for, one with percent signs or escapes in it included, and no text
is decoded twice. -/
theorem decodePath_of_spells :
    (∀ text raw : String, Spells text raw → decodePath raw = text) ∧
      ∀ text : String, ∃ raw, Spells text raw ∧ decodePath raw = text := by
  have hdecode (text raw : String) (h : Spells text raw) : decodePath raw = text := by
    obtain ⟨parts, hparts, hraw⟩ := h
    have hbytes : percentDecode? raw.toList = some text := by
      rw [percentDecode?_eq_some_iff, hraw, percentBytes_flatten hparts]
    apply String.toList_inj.mp
    rw [toList_decodePath, hraw, cut_flatten hparts, Cut.decode, ← hraw, decodePiece_of_eq hbytes]
  refine ⟨hdecode, fun text => ?_⟩
  obtain ⟨raw, hraw⟩ := exists_spells text
  exact ⟨raw, hraw, hdecode text raw hraw⟩

/-- An escaped slash and a character of two bytes are spelled with escapes of both cases. -/
theorem decodePath_of_spells_escapedSlash :
    Spells "/%2F/%é" "/%252F/%25%c3%A9" ∧ decodePath "/%252F/%25%c3%A9" = "/%2F/%é" := by
  have hspells : Spells "/%2F/%é" "/%252F/%25%c3%A9" := by
    refine ⟨[['/'], ['%', '2', '5'], ['2'], ['F'], ['/'], ['%', '2', '5'],
      ['%', 'c', '3', '%', 'A', '9']], ?_, by decide⟩
    have hbytes : Escapes (String.utf8EncodeChar 'é') ['%', 'c', '3', '%', 'A', '9'] :=
      .cons (by decide) (by decide) (.cons (by decide) (by decide) .nil)
    exact .cons .slash (.cons .percent (.cons (.raw (by decide) (by decide))
      (.cons (.raw (by decide) (by decide)) (.cons .slash (.cons .percent
        (.cons (.escaped (by decide) (by decide) hbytes) .nil))))))
  exact ⟨hspells, decodePath_of_spells.1 _ _ hspells⟩

end WebRouting.Url
