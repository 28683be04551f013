import Mathlib.Data.List.MinMax
import WebRouting.Proofs.Regex.Run
import WebRouting.Regex.Reader

/-! # Limits on patterns

A pattern is accepted if it can be read and is within two limits (`read?_eq_some_iff`). What is too large
or nested too deep by itself is so as a part of something else: a sequence is as large as each of its
items at least (`size_le_size_seqReversed`), and as deep as each of them (`le_depthOf_of_mem`). What
need not be repeated, since it passes over nothing, does so wherever it matches (`Ends.passes_nil`). -/

namespace WebRouting.Regex

theorem nesting_of_run? {pattern : List Char} {out : Reading}
    (h : ({} : Reading).run? pattern = some out) : nesting pattern = out.level.depth := by
  rw [nesting, h, Option.map_some, Option.getD_some]

/-- A pattern is accepted as an expression exactly if it can be read as the expression, is not nested too
deep and does not mean something too large. -/
theorem read?_eq_some_iff {pattern : List Char} {r : Regex} : read? pattern = some r ↔
    ∃ out, ({} : Reading).run? pattern = some out ∧ out.finish? = some r ∧
      out.level.depth ≤ nestingLimit ∧ r.size ≤ sizeLimit := by
  simp only [read?, parse?, Option.filter_eq_some_iff, Option.bind_eq_some_iff,
    Bool.and_eq_true_iff, decide_eq_true_iff]
  constructor
  · rintro ⟨⟨out, hout, hfinish⟩, hnesting, hsize⟩
    exact ⟨out, hout, hfinish, nesting_of_run? hout ▸ hnesting, hsize⟩
  · rintro ⟨out, hout, hfinish, hnesting, hsize⟩
    exact ⟨⟨out, hout, hfinish⟩, nesting_of_run? hout ▸ hnesting, hsize⟩

/-- A sequence is at least as large as each of its items. -/
theorem size_le_size_seqReversed {r : Regex} {items : List Regex} (h : r ∈ items) :
    r.size ≤ (seqReversed items).size := by
  induction items with
  | nil => cases h
  | cons item items ih =>
    have hcons : seqReversed (item :: items) = .seq (seqReversed items) item := rfl
    rw [hcons, size]
    rcases List.mem_cons.mp h with rfl | h
    · omega
    · have hitems := ih h
      omega

/-- The assertions around an expression for the whole text add to its size. -/
theorem size_le_size_wholeText (r : Regex) : r.size ≤ r.wholeText.size :=
  size_le_size_seqReversed (List.mem_cons_of_mem _ List.mem_cons_self)

/-- Rounds of what passes over nothing pass over nothing. -/
theorem Rounds.passes_nil {step : Cursor → Cursor → Prop} (hstep : ∀ c d, step c d → c.Passes [] d)
    {n : Nat} {c d : Cursor} (h : Rounds step n c d) : c.Passes [] d := by
  induction h with
  | zero c => exact .refl c
  | succ first _ ih => exact (hstep _ _ first).trans ih

/-- What is measured as passing over nothing ends where it starts. -/
theorem Ends.passes_nil {r : Regex} {c d : Cursor} (hends : r.Ends c d)
    (h : r.passesNothing = true) : c.Passes [] d := by
  induction r generalizing c d with
  | empty => cases hends; exact .refl c
  | char allowed => cases h
  | assert a => cases hends.2; exact .refl c
  | seq first second ihFirst ihSecond =>
    obtain ⟨m, hfirst, hsecond⟩ := hends
    rw [passesNothing, Bool.and_eq_true] at h
    exact (ihFirst hfirst h.1).trans (ihSecond hsecond h.2)
  | alt first second ihFirst ihSecond =>
    rw [passesNothing, Bool.and_eq_true] at h
    exact hends.elim (ihFirst · h.1) (ihSecond · h.2)
  | rep body least most greedy ih =>
    obtain ⟨n, ⟨-, hmost⟩, hrounds⟩ := hends
    simp only [passesNothing, Bool.or_eq_true, Bool.and_eq_true, decide_eq_true_iff] at h
    obtain hbody | ⟨rfl, hzero⟩ := h
    · exact hrounds.passes_nil fun _ _ hends => ih hends hbody
    -- no round at all
    · obtain rfl : n = 0 := Nat.le_zero.mp (hmost 0 hzero)
      cases hrounds
      exact .refl c
  | group name body ih =>
    obtain ⟨m, hbody, rfl⟩ := hends
    exact (ih hbody h).capture c name

theorem le_depthOf_of_mem {depth : Nat} {depths : List Nat} (h : depth ∈ depths) :
    depth ≤ depthOf depths := by
  match depths with
  | [] => cases h
  | [only] => exact Nat.le_of_eq (List.mem_singleton.mp h)
  | first :: second :: more =>
    have hmax : depth ≤ (first :: second :: more).foldr max 0 := List.le_max_of_le' 0 h le_rfl
    exact Nat.le_succ_of_le hmax

/-- A group is at least as deep as each item of its last branch. -/
theorem Level.le_depth_of_mem {l : Level} {depth : Nat} (h : depth ∈ l.depths) : depth ≤ l.depth :=
  Nat.le_trans (le_depthOf_of_mem h) (le_depthOf_of_mem List.mem_cons_self)

end WebRouting.Regex
