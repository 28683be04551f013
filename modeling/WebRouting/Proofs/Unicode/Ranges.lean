import WebRouting.Unicode.Ranges

/-! # Operations on ranges

Ranges that are put in order cover what they covered before (`covers_ordered`). So the operations on
ranges are those on the sets of the code points that they cover. -/

namespace WebRouting.Ranges

variable {r s : Ranges} {first last code start : Nat}

@[simp] theorem covers_append (r s : Ranges) (code : Nat) :
    covers (r ++ s) code = (r.covers code || s.covers code) := List.any_append

theorem covers_iff : r.covers code = true ↔ ∃ range ∈ r, range.1 ≤ code ∧ code ≤ range.2 := by
  simp [covers, List.any_eq_true]

/-! ## Ranges in order -/

/-- The ranges are in order. None is empty, and each ends at a distance from those behind it. -/
def InOrder : Ranges → Prop
  | [] => True
  | (first, last) :: r => first ≤ last ∧ (∀ range ∈ r, last + 1 < range.1) ∧ InOrder r

/-- All ranges start behind a bound before which neither the new range nor an old one starts. -/
theorem lt_of_mem_insert {bound : Nat} (hfirst : bound < first) (hr : ∀ range ∈ r, bound < range.1) :
    ∀ range ∈ insert first last r, bound < range.1 := by
  induction r generalizing first last with
  | nil => simpa [insert] using hfirst
  | cons range r ih =>
    obtain ⟨f, l⟩ := range
    rw [List.forall_mem_cons] at hr
    rw [insert]
    split
    · rw [List.forall_mem_cons, List.forall_mem_cons]
      exact ⟨hfirst, hr⟩
    · split
      · rw [List.forall_mem_cons]
        exact ⟨hr.1, ih hfirst hr.2⟩
      · exact ih (by have := hr.1; omega) hr.2

theorem InOrder.insert (hr : InOrder r) (h : first ≤ last) : InOrder (insert first last r) := by
  induction r generalizing first last with
  | nil => exact ⟨h, by simp, trivial⟩
  | cons range r ih =>
    obtain ⟨f, l⟩ := range
    obtain ⟨hrange, hbehind, hr⟩ := hr
    rw [Ranges.insert]
    split
    -- in front of all
    · next hlast =>
      refine ⟨h, ?_, hrange, hbehind, hr⟩
      rw [List.forall_mem_cons]
      exact ⟨hlast, fun x hx => by have := hbehind x hx; omega⟩
    · split
      -- behind the first one
      · next hfirst => exact ⟨hrange, lt_of_mem_insert hfirst hbehind, ih hr h⟩
      -- joined with the first one
      · exact ih hr (by omega)

theorem covers_insert (hr : InOrder r) (h : first ≤ last) :
    (insert first last r).covers code = ((first ≤ code && code ≤ last) || r.covers code) := by
  induction r generalizing first last with
  | nil => rfl
  | cons range r ih =>
    obtain ⟨f, l⟩ := range
    obtain ⟨hrange, -, hr⟩ := hr
    rw [Ranges.insert]
    split
    · rfl
    · split
      · rw [covers_cons, ih hr h, covers_cons, Bool.or_left_comm]
      · -- the two ranges meet, so nothing lies between them
        next hlast hfirst =>
        rw [ih hr (by omega), covers_cons, ← Bool.or_assoc]
        congr 1
        rw [Bool.eq_iff_iff]
        simp only [Bool.or_eq_true, Bool.and_eq_true, decide_eq_true_iff]
        omega

theorem ordered_cons (first last : Nat) (r : Ranges) : ordered ((first, last) :: r) =
    if first ≤ last then Ranges.insert first last r.ordered else r.ordered := rfl

theorem inOrder_ordered (r : Ranges) : InOrder r.ordered := by
  induction r with
  | nil => trivial
  | cons range r ih =>
    rw [ordered_cons]
    split
    · next h => exact ih.insert h
    · exact ih

/-- Putting ranges in order changes nothing that they cover. -/
@[simp] theorem covers_ordered (r : Ranges) (code : Nat) : r.ordered.covers code = r.covers code := by
  induction r with
  | nil => rfl
  | cons range r ih =>
    obtain ⟨f, l⟩ := range
    rw [ordered_cons, covers_cons, ← ih]
    split
    · next h => exact covers_insert (inOrder_ordered r) h
    · next h =>
      -- an empty range covers nothing
      have hempty : (f ≤ code && code ≤ l) = false := by
        rw [Bool.and_eq_false_iff, decide_eq_false_iff_not, decide_eq_false_iff_not]
        omega
      rw [hempty, Bool.false_or]

/-! ## Complements -/

theorem covers_gaps (hr : InOrder r) (hstart : ∀ range ∈ r, start ≤ range.1) (hcode : code ≤ lastCode) :
    (gaps start r).covers code = (start ≤ code && !r.covers code) := by
  induction r generalizing start with
  | nil =>
    rw [gaps]
    split <;> simp <;> omega
  | cons range r ih =>
    obtain ⟨f, l⟩ := range
    obtain ⟨hrange, hbehind, hr⟩ := hr
    rw [List.forall_mem_cons] at hstart
    have hlater : ∀ x ∈ r, l + 1 ≤ x.1 := fun x hx => Nat.le_of_lt (hbehind x hx)
    have hrest := ih hr hlater
    -- what the ranges behind cover starts behind the first one
    have hcovers : covers r code = true → l < code := by
      rw [covers_iff]
      rintro ⟨x, hx, hle, -⟩
      have := hbehind x hx
      omega
    rw [gaps]
    split
    · rw [covers_cons, hrest, covers_cons, Bool.eq_iff_iff]
      cases hc : covers r code with
      | true =>
        have hl := hcovers hc
        simp
        omega
      | false =>
        simp
        omega
    · rw [hrest, covers_cons, Bool.eq_iff_iff]
      cases hc : covers r code with
      | true => simp
      | false =>
        simp
        omega

/-- The complement covers what the ranges do not cover. -/
theorem covers_compl (r : Ranges) (hcode : code ≤ lastCode) :
    r.compl.covers code = !r.covers code := by
  rw [compl, covers_gaps (inOrder_ordered r) (fun _ _ => Nat.zero_le _) hcode]
  simp

theorem covers_inter (r s : Ranges) (hcode : code ≤ lastCode) :
    (r.inter s).covers code = (r.covers code && s.covers code) := by
  rw [inter, covers_compl _ hcode, covers_append, covers_compl r hcode, covers_compl s hcode,
    Bool.not_or, Bool.not_not, Bool.not_not]

theorem covers_diff (r s : Ranges) (hcode : code ≤ lastCode) :
    (r.diff s).covers code = (r.covers code && !s.covers code) := by
  rw [diff, covers_compl _ hcode, covers_append, covers_compl r hcode, Bool.not_or, Bool.not_not]

theorem covers_symmDiff (r s : Ranges) (hcode : code ≤ lastCode) :
    (r.symmDiff s).covers code = (r.covers code != s.covers code) := by
  rw [symmDiff, covers_diff _ _ hcode, covers_append, covers_inter r s hcode]
  cases r.covers code <;> cases s.covers code <;> rfl

end WebRouting.Ranges
