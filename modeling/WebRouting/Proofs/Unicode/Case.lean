import Mathlib.Data.List.Pairwise
import WebRouting.Proofs.Unicode.Ranges
import WebRouting.Unicode.Case

/-! # Letter case in ranges

Case folding moves each character once at most, to one that stays (`isFolding_foldRuns`). So the
characters that are moved to the same place are found from there in one step, and the closure of ranges
covers those that differ in case only from one in the ranges (`covers_closure_iff`). -/

namespace WebRouting.Unicode

variable {runs : List CaseRun} {codes : Ranges} {code x y z : Nat}

/-! ## Runs -/

namespace CaseRun

variable {r : CaseRun}

/-- The run is of characters, of which the null character is none. -/
def OfChars (r : CaseRun) : Prop :=
  0 < r.first ∧ (r.last < 0xD800 ∨ 0xDFFF < r.first) ∧ r.last ≤ Ranges.lastCode

/-- The run moves characters to characters. -/
def Sound (r : CaseRun) : Prop := 0 < (r.first : Int) + r.shift ∧ r.OfChars ∧ r.inverse.OfChars

/-- The first run ends before the second one starts. -/
def Before (r t : CaseRun) : Prop := r.first ≤ r.last ∧ r.last < t.first

/-- The code points of the run are all odd or all even. -/
def alternates (r : CaseRun) : Bool := r.step == 2 || r.first == r.last

/-- The runs have no code point in common: one ends before the other starts, or one has odd code points
and the other has even ones. -/
def apart (r t : CaseRun) : Bool :=
  Nat.blt r.last t.first || Nat.blt t.last r.first ||
    (r.alternates && t.alternates && r.first % 2 != t.first % 2)

instance (r : CaseRun) : Decidable r.OfChars := inferInstanceAs (Decidable (_ ∧ _))

instance (r : CaseRun) : Decidable r.Sound := inferInstanceAs (Decidable (_ ∧ _))

instance (r t : CaseRun) : Decidable (r.Before t) := inferInstanceAs (Decidable (_ ∧ _))

instance : Trans Before Before Before where
  trans h h' := ⟨h.1, by have := h.2; have := h'.1; have := h'.2; omega⟩

theorem covers_iff : r.covers code = true ↔
    r.first ≤ code ∧ code ≤ r.last ∧ (code - r.first) % r.step = 0 := by
  simp [covers, and_assoc]

theorem isValidChar_of_covers (h : r.OfChars) (hcovers : r.covers code = true) :
    code.isValidChar := by
  obtain ⟨-, hsurrogates, hlast⟩ := h
  rw [covers_iff] at hcovers
  simp only [Ranges.lastCode] at hlast
  simp only [Nat.isValidChar]
  omega

theorem mod_eq_of_alternates (h : r.alternates = true) (hcovers : r.covers code = true) :
    code % 2 = r.first % 2 := by
  obtain ⟨hfirst, hlast, hstep⟩ := covers_iff.mp hcovers
  rw [alternates, Bool.or_eq_true, beq_iff_eq, beq_iff_eq] at h
  obtain htwo | hsingle := h
  · rw [htwo] at hstep
    omega
  · omega

theorem not_covers_of_before {t : CaseRun} (h : r.Before t) (hcovers : t.covers code = true) :
    ¬r.covers code = true := by
  intro hrcovers
  have hlast := (covers_iff.mp hrcovers).2.1
  have hfirst := (covers_iff.mp hcovers).1
  have hbefore := h.2
  omega

theorem not_covers_of_apart {t : CaseRun} (h : r.apart t = true) (hcovers : r.covers code = true) :
    ¬t.covers code = true := by
  intro htcovers
  obtain ⟨hrfirst, hrlast, -⟩ := covers_iff.mp hcovers
  obtain ⟨htfirst, htlast, -⟩ := covers_iff.mp htcovers
  simp only [apart, Bool.or_eq_true, Bool.and_eq_true, Nat.blt_eq, bne_iff_ne] at h
  obtain (hlt | hlt) | ⟨⟨hr, ht⟩, hparity⟩ := h
  · omega
  · omega
  · exact hparity ((mod_eq_of_alternates hr hcovers).symm.trans (mod_eq_of_alternates ht htcovers))

/-- The members of a run in a range are those of both. -/
theorem covers_within (r : CaseRun) (first last code : Nat) :
    (r.within first last).covers code = true ↔ first ≤ code ∧ code ≤ last ∧ r.covers code = true := by
  rw [within, covers_iff]
  split
  · next hstep =>
    rw [hstep, Ranges.covers_cons, Ranges.covers_nil]
    simp
    omega
  · simp only [Ranges.covers_iff, List.mem_map, List.mem_filter, List.mem_range'_1]
    constructor
    · rintro ⟨_, ⟨x, ⟨hx, hcovers⟩, rfl⟩, hle, hge⟩
      obtain rfl : x = code := Nat.le_antisymm hle hge
      rw [covers_iff] at hcovers
      omega
    · rintro ⟨hfirst, hlast, hcovers⟩
      refine ⟨(code, code), ⟨code, ⟨?_, covers_iff.mpr hcovers⟩, rfl⟩, Nat.le_refl _, Nat.le_refl _⟩
      omega

theorem first_le_of_mem_within {first last : Nat} {range : Nat × Nat}
    (h : range ∈ r.within first last) : r.first ≤ range.1 := by
  rw [within] at h
  split at h
  · rw [List.mem_singleton.mp h]
    exact Nat.le_max_right ..
  · obtain ⟨x, hx, rfl⟩ := List.mem_map.mp h
    exact (covers_iff.mp (List.mem_filter.mp hx).2).1

/-- The image of ranges covers the places to which the run moves what they cover. -/
theorem covers_image (h : 0 < (r.first : Int) + r.shift) : (r.image codes).covers code = true ↔
    ∃ x, codes.covers x = true ∧ r.covers x = true ∧ (x : Int) + r.shift = code := by
  simp only [image, Ranges.covers_iff, List.mem_map, List.mem_flatMap]
  constructor
  · rintro ⟨_, ⟨part, ⟨range, hrange, hpart⟩, rfl⟩, hle, hge⟩
    have hfirst := first_le_of_mem_within hpart
    obtain ⟨x, hx⟩ : ∃ x : Nat, (x : Int) + r.shift = code := ⟨(code - r.shift).toNat, by omega⟩
    have hcovers : (r.within range.1 range.2).covers x = true :=
      Ranges.covers_iff.mpr ⟨part, hpart, by omega, by omega⟩
    obtain ⟨hxfirst, hxlast, hcovers⟩ := (covers_within ..).mp hcovers
    exact ⟨x, ⟨range, hrange, hxfirst, hxlast⟩, hcovers, hx⟩
  · rintro ⟨x, ⟨range, hrange, hxfirst, hxlast⟩, hcovers, hx⟩
    obtain ⟨part, hpart, hle, hge⟩ :=
      Ranges.covers_iff.mp ((covers_within ..).mpr ⟨hxfirst, hxlast, hcovers⟩)
    exact ⟨_, ⟨part, ⟨range, hrange, hpart⟩, rfl⟩, by omega, by omega⟩

theorem covers_inverse (h : r.Sound) : r.inverse.covers y = true ↔
    ∃ x, r.covers x = true ∧ (x : Int) + r.shift = y := by
  obtain ⟨htarget, ⟨hfirst, -⟩, -⟩ := h
  simp only [covers_iff, inverse]
  constructor
  · rintro ⟨hy, hlast, hstep⟩
    refine ⟨((y : Int) - r.shift).toNat, ⟨by omega, by omega, ?_⟩, by omega⟩
    rwa [show ((y : Int) - r.shift).toNat - r.first = y - ((r.first : Int) + r.shift).toNat by omega]
  · rintro ⟨x, ⟨hx, hlast, hstep⟩, hxy⟩
    refine ⟨by omega, by omega, ?_⟩
    rwa [show y - ((r.first : Int) + r.shift).toNat = x - r.first by omega]

/-- The image under the inverse covers what the run moves to what the ranges cover. -/
theorem covers_inverse_image (h : r.Sound) : (r.inverse.image codes).covers code = true ↔
    ∃ y, codes.covers y = true ∧ r.covers code = true ∧ (code : Int) + r.shift = y := by
  have hpositive : 0 < (r.inverse.first : Int) + r.inverse.shift := by
    obtain ⟨htarget, ⟨hfirst, -⟩, -⟩ := h
    simp only [inverse]
    omega
  rw [covers_image hpositive]
  constructor
  · rintro ⟨y, hy, hcovers, hcode⟩
    obtain ⟨x, hx, hxy⟩ := (covers_inverse h).mp hcovers
    simp only [inverse] at hcode
    obtain rfl : x = code := by omega
    exact ⟨y, hy, hx, hxy⟩
  · rintro ⟨y, hy, hcovers, hcode⟩
    refine ⟨y, hy, (covers_inverse h).mpr ⟨code, hcovers, hcode⟩, ?_⟩
    simp only [inverse]
    omega

theorem source?_eq_some_iff : r.source? y = some x ↔ r.covers x = true ∧ (x : Int) + r.shift = y := by
  rw [source?]
  simp only [Bool.and_eq_true, decide_eq_true_iff, Option.ite_none_right_eq_some, Option.some_inj]
  constructor
  · rintro ⟨⟨hle, hcovers⟩, rfl⟩
    exact ⟨hcovers, by omega⟩
  · rintro ⟨hcovers, hxy⟩
    obtain rfl : ((y : Int) - r.shift).toNat = x := by omega
    exact ⟨⟨by omega, hcovers⟩, rfl⟩

end CaseRun

/-! ## Foldings -/

/-- One of the runs moves the first code point to the second. -/
def Moves (runs : List CaseRun) (x y : Nat) : Prop :=
  ∃ r ∈ runs, r.covers x = true ∧ (x : Int) + r.shift = y

/-- The runs move each character once at most, to one that stays. -/
structure IsFolding (runs : List CaseRun) : Prop where
  /-- Characters are moved to characters. -/
  sound : ∀ r ∈ runs, r.Sound
  /-- The runs are in order. -/
  inOrder : runs.IsChain CaseRun.Before
  /-- What has been moved is in no run. -/
  final : (runs.all fun r => runs.all r.inverse.apart) = true

instance (runs : List CaseRun) : Decidable (IsFolding runs) :=
  decidable_of_iff ((∀ r ∈ runs, r.Sound) ∧ runs.IsChain CaseRun.Before ∧
      (runs.all fun r => runs.all r.inverse.apart) = true)
    ⟨fun ⟨hsound, hinOrder, hfinal⟩ => ⟨hsound, hinOrder, hfinal⟩,
      fun ⟨hsound, hinOrder, hfinal⟩ => ⟨hsound, hinOrder, hfinal⟩⟩

theorem isFolding_foldRuns : IsFolding foldRuns := by decide +kernel

/-- A code point is in one run at most. -/
theorem IsFolding.eq_of_covers (h : IsFolding runs) {r t : CaseRun} (hr : r ∈ runs) (ht : t ∈ runs)
    (hrcovers : r.covers x = true) (htcovers : t.covers x = true) : r = t := by
  have : Std.Symm fun r t : CaseRun => r.Before t ∨ t.Before r := ⟨fun _ _ => Or.symm⟩
  have hpairwise : runs.Pairwise fun r t => r.Before t ∨ t.Before r :=
    (List.isChain_iff_pairwise.mp h.inOrder).imp .inl
  by_contra hne
  obtain hbefore | hbefore := hpairwise.forall hr ht hne
  · exact CaseRun.not_covers_of_before hbefore htcovers hrcovers
  · exact CaseRun.not_covers_of_before hbefore hrcovers htcovers

theorem IsFolding.unique (h : IsFolding runs) (hy : Moves runs x y) (hz : Moves runs x z) : y = z := by
  obtain ⟨r, hr, hrcovers, hry⟩ := hy
  obtain ⟨t, ht, htcovers, htz⟩ := hz
  obtain rfl := h.eq_of_covers hr ht hrcovers htcovers
  omega

theorem IsFolding.not_moves (h : IsFolding runs) (hxy : Moves runs x y) : ¬Moves runs y z := by
  rintro ⟨t, ht, htcovers, -⟩
  obtain ⟨r, hr, hmoves⟩ := hxy
  have hinverse : r.inverse.covers y = true := (CaseRun.covers_inverse (h.sound r hr)).mpr ⟨x, hmoves⟩
  have hapart := List.all_eq_true.mp (List.all_eq_true.mp h.final r hr) t ht
  exact CaseRun.not_covers_of_apart hapart hinverse htcovers

theorem IsFolding.isValidChar_left (h : IsFolding runs) (hxy : Moves runs x y) : x.isValidChar := by
  obtain ⟨r, hr, hcovers, -⟩ := hxy
  exact CaseRun.isValidChar_of_covers (h.sound r hr).2.1 hcovers

theorem IsFolding.isValidChar_right (h : IsFolding runs) (hxy : Moves runs x y) : y.isValidChar := by
  obtain ⟨r, hr, hmoves⟩ := hxy
  exact CaseRun.isValidChar_of_covers (h.sound r hr).2.2
    ((CaseRun.covers_inverse (h.sound r hr)).mpr ⟨x, hmoves⟩)

theorem covers_flatMap_image (h : ∀ r ∈ runs, r.Sound) :
    Ranges.covers (runs.flatMap (·.image codes)) code = true ↔
      ∃ x, codes.covers x = true ∧ Moves runs x code := by
  rw [Ranges.covers, List.any_flatMap, List.any_eq_true]
  constructor
  · rintro ⟨r, hr, hcovers⟩
    obtain ⟨x, hx, hmoves⟩ := (CaseRun.covers_image (h r hr).1).mp hcovers
    exact ⟨x, hx, r, hr, hmoves⟩
  · rintro ⟨x, hx, r, hr, hmoves⟩
    exact ⟨r, hr, (CaseRun.covers_image (h r hr).1).mpr ⟨x, hx, hmoves⟩⟩

theorem covers_flatMap_inverse_image (h : ∀ r ∈ runs, r.Sound) :
    Ranges.covers (runs.flatMap (·.inverse.image codes)) code = true ↔
      ∃ y, codes.covers y = true ∧ Moves runs code y := by
  rw [Ranges.covers, List.any_flatMap, List.any_eq_true]
  constructor
  · rintro ⟨r, hr, hcovers⟩
    obtain ⟨y, hy, hmoves⟩ := (CaseRun.covers_inverse_image (h r hr)).mp hcovers
    exact ⟨y, hy, r, hr, hmoves⟩
  · rintro ⟨y, hy, r, hr, hmoves⟩
    exact ⟨r, hr, (CaseRun.covers_inverse_image (h r hr)).mpr ⟨y, hy, hmoves⟩⟩

/-- Where a code point is moved: to where one of the runs moves it, or nowhere if none does. -/
theorem moved_cases (h : IsFolding runs) (code : Nat) :
    Moves runs code (moved runs code) ∨ moved runs code = code ∧ ∀ y, ¬Moves runs code y := by
  rw [moved]
  cases hfind : runs.find? (·.covers code) with
  | none =>
    refine .inr ⟨rfl, ?_⟩
    rintro y ⟨r, hr, hcovers, -⟩
    exact List.find?_eq_none.mp hfind r hr hcovers
  | some r =>
    have hr := List.mem_of_find?_eq_some hfind
    have hcovers : r.covers code = true := List.find?_some (p := fun r : CaseRun => r.covers code) hfind
    have htarget := (h.sound r hr).1
    have hfirst := (CaseRun.covers_iff.mp hcovers).1
    exact .inl ⟨r, hr, hcovers, by simp only; omega⟩

/-- The closure covers the code points from which or to which a covered one can be moved, by way of the
place to which both are moved. -/
theorem covers_closure_iff (h : IsFolding runs) : (closure runs codes).covers code = true ↔
    codes.covers code = true ∨ codes.covers (moved runs code) = true ∨
      ∃ x, codes.covers x = true ∧ Moves runs x (moved runs code) := by
  simp only [closure, Ranges.covers_append, Bool.or_eq_true, Ranges.covers_ordered,
    covers_flatMap_image h.sound, covers_flatMap_inverse_image h.sound]
  obtain hmoves | ⟨heq, hstays⟩ := moved_cases h code
  · constructor
    · rintro ((hcode | ⟨x, hx, hxcode⟩) | ⟨y, hy, hcodey⟩)
      · exact .inl hcode
      · exact absurd hmoves (h.not_moves hxcode)
      · rw [h.unique hmoves hcodey]
        exact .inr hy
    · rintro (hcode | hmoved)
      · exact .inl (.inl hcode)
      · exact .inr ⟨_, hmoved, hmoves⟩
  · rw [heq]
    constructor
    · rintro (hcode | ⟨y, -, hcodey⟩)
      · exact .imp_right .inr hcode
      · exact absurd hcodey (hstays y)
    · rintro (hcode | hcode)
      · exact .inl (.inl hcode)
      · exact .inl hcode

/-! ## Characters that differ in case -/

theorem isValidChar_moved (h : IsFolding runs) (c : Char) : (moved runs c.toNat).isValidChar := by
  obtain hmoves | ⟨heq, -⟩ := moved_cases h c.toNat
  · exact h.isValidChar_right hmoves
  · rw [heq]
    exact c.valid

theorem toNat_ofNat (h : code.isValidChar) : (Char.ofNat code).toNat = code := by
  rw [Char.ofNat, dif_pos h]
  rfl

theorem exists_toNat_eq (h : code.isValidChar) : ∃ c : Char, c.toNat = code := ⟨_, toNat_ofNat h⟩

theorem mem_caseVariants {c d : Char} : d ∈ caseVariants c ↔
    d.toNat = moved foldRuns c.toNat ∨ Moves foldRuns d.toNat (moved foldRuns c.toNat) := by
  have hfolding := isFolding_foldRuns
  simp only [caseVariants, List.mem_map, List.mem_cons, List.mem_filterMap,
    CaseRun.source?_eq_some_iff]
  constructor
  · rintro ⟨x, rfl | hmoves, rfl⟩
    · exact .inl (toNat_ofNat (isValidChar_moved hfolding c))
    · rw [toNat_ofNat (hfolding.isValidChar_left hmoves)]
      exact .inr hmoves
  · intro hd
    exact ⟨d.toNat, hd, Char.ofNat_toNat d⟩

end WebRouting.Unicode
