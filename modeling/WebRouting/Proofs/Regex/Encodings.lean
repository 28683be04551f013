import Mathlib.Data.List.Forall2
import WebRouting.Proofs.Regex.Members

/-! # Bytes of the members of a class

The sequences of ranges of bytes into which a class is split accept the bytes of its members and no
others (`CharClass.exists_accepts_iff`): what is measured is an automaton for the class. -/

namespace WebRouting

namespace Regex

variable {mark tails first last code byte : Nat} {range : Nat × Nat} {bytes : List Nat}
  {sequence : ByteRanges}

/-- Each byte lies in the range in its place. -/
def Accepts (sequence : ByteRanges) (bytes : List Nat) : Prop :=
  List.Forall₂ (fun range byte => range.1 ≤ byte ∧ byte ≤ range.2) sequence bytes

/-- The bytes of a code point, given the mark of the first byte and how many bytes are behind it. -/
def codeBytes (mark : Nat) : (tails code : Nat) → List Nat
  | 0, code => [mark + code]
  | tails + 1, code =>
    (mark + code / blockSize (tails + 1)) :: codeBytes tailMark tails (code % blockSize (tails + 1))

theorem accepts_cons : Accepts (range :: sequence) (byte :: bytes) ↔
    (range.1 ≤ byte ∧ byte ≤ range.2) ∧ Accepts sequence bytes := List.forall₂_cons

theorem exists_accepts_cons (sequences : List ByteRanges) :
    (∃ sequence ∈ sequences.map (range :: ·), Accepts sequence (byte :: bytes)) ↔
      (range.1 ≤ byte ∧ byte ≤ range.2) ∧ ∃ sequence ∈ sequences, Accepts sequence bytes := by
  simp only [List.mem_map, exists_exists_and_eq_and, accepts_cons, and_left_comm, exists_and_left]

theorem length_codeBytes : (codeBytes mark tails code).length = tails + 1 := by
  induction tails generalizing mark code with
  | zero => rfl
  | succ tails ih => rw [codeBytes, List.length_cons, ih]

theorem blockSize_pos (tails : Nat) : 0 < blockSize tails := by
  induction tails with
  | zero => decide
  | succ tails ih => rw [blockSize]; omega

/-- Numbers are compared by their quotients first. -/
theorem le_iff_div_mod (block a b : Nat) :
    a ≤ b ↔ a / block < b / block ∨ a / block = b / block ∧ a % block ≤ b % block := by
  have ha := Nat.div_add_mod a block
  have hb := Nat.div_add_mod b block
  constructor
  · intro h
    obtain hlt | heq := Nat.lt_or_eq_of_le (Nat.div_le_div_right h)
    · exact .inl hlt
    · rw [heq] at ha
      exact .inr ⟨heq, by omega⟩
  · rintro (hlt | ⟨heq, hle⟩)
    · exact Nat.le_of_lt (Nat.lt_of_div_lt_div hlt)
    · rw [heq] at ha
      omega

/-- A block that is taken as a whole accepts all that is behind its first byte. -/
theorem accepts_replicate (hcode : code < blockSize (tails + 1)) :
    Accepts (List.replicate (tails + 1) (tailMark, tailMark + 63)) (codeBytes tailMark tails code) := by
  induction tails generalizing code with
  | zero =>
    rw [blockSize, blockSize] at hcode
    exact .cons ⟨Nat.le_add_right .., by simp only; omega⟩ .nil
  | succ tails ih =>
    have hlead : code / blockSize (tails + 1) < 64 := by
      rw [blockSize, Nat.mul_comm] at hcode
      exact Nat.div_lt_of_lt_mul hcode
    have hbehind : code % blockSize (tails + 1) < blockSize (tails + 1) := Nat.mod_lt _ (blockSize_pos _)
    exact .cons ⟨Nat.le_add_right .., by simp only; omega⟩ (ih hbehind)

/-- The sequences for the code points from `first` to `last` accept their bytes and no others. -/
theorem exists_accepts_byteSequences (hle : first ≤ last) :
    (∃ sequence ∈ byteSequences mark tails first last, Accepts sequence (codeBytes mark tails code)) ↔
      first ≤ code ∧ code ≤ last := by
  induction tails generalizing mark first last code with
  | zero => simp [byteSequences, codeBytes, Accepts]
  | succ tails ih =>
    have htails : ∀ code, Accepts (List.replicate (tails + 1) (tailMark, tailMark + 63))
        (codeBytes tailMark tails (code % blockSize (tails + 1))) :=
      fun code => accepts_replicate (Nat.mod_lt _ (blockSize_pos _))
    have hpositive : 0 < blockSize (tails + 1) := blockSize_pos _
    rw [byteSequences, codeBytes]
    generalize blockSize (tails + 1) = block at htails hpositive
    have hfirst := Nat.mod_lt first hpositive
    have hcode := Nat.mod_lt code hpositive
    -- one block, of which a part is taken
    have hpart : ∀ {lead first last : Nat}, first ≤ last →
        ((∃ sequence ∈ (byteSequences tailMark tails first last).map ((mark + lead, mark + lead) :: ·),
          Accepts sequence ((mark + code / block) :: codeBytes tailMark tails (code % block))) ↔
        code / block = lead ∧ first ≤ code % block ∧ code % block ≤ last) := by
      intro lead first last hle
      rw [exists_accepts_cons, ih hle]
      omega
    -- the blocks before another one
    have hwhole : ∀ {lead leadEnd : Nat},
        (lead < leadEnd ∧ Accepts
          ((mark + lead, mark + leadEnd - 1) :: List.replicate (tails + 1) (tailMark, tailMark + 63))
          ((mark + code / block) :: codeBytes tailMark tails (code % block))) ↔
        lead ≤ code / block ∧ code / block < leadEnd := by
      intro lead leadEnd
      rw [accepts_cons, and_iff_left (htails code)]
      omega
    rw [le_iff_div_mod block first code, le_iff_div_mod block code last]
    rw [le_iff_div_mod block] at hle
    simp only
    split
    · rw [hpart (by omega)]
      omega
    · simp only [List.mem_append, or_and_right, exists_or, List.mem_ite_nil_left,
        List.mem_ite_nil_right, and_assoc, exists_and_left, List.mem_singleton, exists_eq_left]
      rw [hpart (by omega), hwhole, hpart (Nat.zero_le _)]
      split <;> split <;> omega

theorem length_of_mem_byteSequences (h : sequence ∈ byteSequences mark tails first last) :
    sequence.length = tails + 1 := by
  induction tails generalizing mark first last sequence with
  | zero =>
    rw [byteSequences, List.mem_singleton] at h
    rw [h, List.length_singleton]
  | succ tails ih =>
    have hpart : ∀ {lead first last : Nat}, sequence ∈
        (byteSequences tailMark tails first last).map ((mark + lead, mark + lead) :: ·) →
        sequence.length = tails + 2 := by
      intro lead first last h
      obtain ⟨behind, hbehind, rfl⟩ := List.mem_map.mp h
      rw [List.length_cons, ih hbehind]
    rw [byteSequences] at h
    simp only at h
    split at h
    · exact hpart h
    · simp only [List.mem_append, List.mem_ite_nil_left, List.mem_ite_nil_right,
        List.mem_singleton] at h
      obtain (⟨-, h⟩ | ⟨-, rfl⟩) | ⟨-, h⟩ := h
      · exact hpart h
      · rw [List.length_cons, List.length_replicate]
      · exact hpart h

/-! ## Characters -/

/-- The bytes of a character. -/
def charBytes (c : Char) : List Nat := (String.utf8EncodeChar c).map UInt8.toNat

theorem exists_byteForm (c : Char) : ∃ form ∈ byteForms, form.first ≤ c.toNat ∧ c.toNat ≤ form.last ∧
    charBytes c = codeBytes form.mark form.tails c.toNat := by
  have hvalid : c.toNat < 0xD800 ∨ 0xDFFF < c.toNat ∧ c.toNat < 0x110000 := c.valid
  have hval : c.val.toNat = c.toNat := rfl
  rw [charBytes, String.utf8EncodeChar, hval]
  generalize c.toNat = code at hvalid
  split
  · refine ⟨⟨0, 0x7F, 0, 0⟩, by simp [byteForms], Nat.zero_le _, ‹_›, ?_⟩
    simp [codeBytes]
    omega
  split
  · refine ⟨⟨0x80, 0x7FF, 0xC0, 1⟩, by simp [byteForms], by simp only; omega, ‹_›, ?_⟩
    simp [codeBytes, blockSize, tailMark]
    omega
  split
  · have hbytes : [UInt8.ofNat (code / 4096 % 16 + 224), UInt8.ofNat (code / 64 % 64 + 128),
        UInt8.ofNat (code % 64 + 128)].map UInt8.toNat = codeBytes 0xE0 2 code := by
      simp [codeBytes, blockSize, tailMark]
      omega
    obtain hlow | ⟨hhigh, -⟩ := hvalid
    · exact ⟨⟨0x800, 0xD7FF, 0xE0, 2⟩, by simp [byteForms], by simp only; omega,
        Nat.le_of_lt_succ hlow, hbytes⟩
    · exact ⟨⟨0xE000, 0xFFFF, 0xE0, 2⟩, by simp [byteForms], hhigh, ‹_›, hbytes⟩
  · refine ⟨⟨0x10000, 0x10FFFF, 0xF0, 3⟩, by simp [byteForms], by simp only; omega,
      by simp only; omega, ?_⟩
    simp [codeBytes, blockSize, tailMark]
    omega

theorem mark_eq_of_tails_eq : ∀ form ∈ byteForms, ∀ other ∈ byteForms,
    form.tails = other.tails → form.mark = other.mark := by decide

/-- The sequences for the code points from `first` to `last` accept the bytes of the characters among
them and of no others. -/
theorem exists_accepts_encodings (first last : Nat) (c : Char) :
    (∃ sequence ∈ encodings first last, Accepts sequence (charBytes c)) ↔
      first ≤ c.toNat ∧ c.toNat ≤ last := by
  obtain ⟨form, hform, hfirst, hlast, hbytes⟩ := exists_byteForm c
  simp only [encodings, List.mem_flatMap, hbytes]
  constructor
  · rintro ⟨sequence, ⟨other, hother, hsequence⟩, haccepts⟩
    rw [List.mem_ite_nil_right] at hsequence
    obtain ⟨hle, hsequence⟩ := hsequence
    have htails : form.tails = other.tails := by
      have hlength := haccepts.length_eq
      rw [length_of_mem_byteSequences hsequence, length_codeBytes] at hlength
      omega
    rw [htails, mark_eq_of_tails_eq form hform other hother htails] at haccepts
    have hcode := (exists_accepts_byteSequences hle).mp ⟨sequence, hsequence, haccepts⟩
    omega
  · rintro ⟨hle, hge⟩
    have hbounds : max first form.first ≤ c.toNat ∧ c.toNat ≤ min last form.last := by omega
    have hmeets : max first form.first ≤ min last form.last := by omega
    obtain ⟨sequence, hsequence, haccepts⟩ := (exists_accepts_byteSequences hmeets).mpr hbounds
    exact ⟨sequence, ⟨form, hform, List.mem_ite_nil_right.mpr ⟨hmeets, hsequence⟩⟩, haccepts⟩

end Regex

/-- The sequences of a class accept the bytes of its members and of no others. -/
theorem CharClass.exists_accepts_iff (a : CharClass) (c : Char) :
    (∃ sequence ∈ a.ranges.ordered.flatMap fun (first, last) => Regex.encodings first last,
      Regex.Accepts sequence (Regex.charBytes c)) ↔ a.contains c = true := by
  rw [← covers_ranges, ← Ranges.covers_ordered, Ranges.covers_iff]
  simp only [List.mem_flatMap]
  constructor
  · rintro ⟨sequence, ⟨range, hrange, hsequence⟩, haccepts⟩
    exact ⟨range, hrange, (Regex.exists_accepts_encodings ..).mp ⟨sequence, hsequence, haccepts⟩⟩
  · rintro ⟨range, hrange, hcovers⟩
    obtain ⟨sequence, hsequence, haccepts⟩ := (Regex.exists_accepts_encodings ..).mpr hcovers
    exact ⟨sequence, ⟨range, hrange, hsequence⟩, haccepts⟩

end WebRouting
