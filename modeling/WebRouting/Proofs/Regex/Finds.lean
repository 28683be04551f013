import WebRouting.Proofs.Regex.Ends

/-! # Finding ends

A step of the matcher lists cursors. `Finds` says that it lists what a relation between cursors says:
every cursor that it lists is related, with what was captured on the way to it, and every position that
is related is listed. Only one cursor is listed for each position; so this is all that can be said, and
it is enough, for what follows depends on the position alone. -/

namespace WebRouting.Regex

variable {text : List Char}

/-! ## Dropping repeated places -/

theorem mem_of_mem_distinctFrom {seen : Std.ExtTreeSet Nat} {cursors : List Cursor} {d : Cursor}
    (h : d ∈ distinctFrom seen cursors) : d ∈ cursors := by
  induction cursors generalizing seen with
  | nil => exact h
  | cons c cursors ih =>
    rw [distinctFrom] at h
    split at h
    · exact List.mem_cons_of_mem c (ih h)
    · rcases List.mem_cons.mp h with rfl | h
      · exact List.mem_cons_self
      · exact List.mem_cons_of_mem c (ih h)

/-- Of the cursors at one position the first is kept. -/
theorem exists_first_mem_distinctFrom {seen : Std.ExtTreeSet Nat} {cursors : List Cursor} {d : Cursor}
    {before : Cursor → Cursor → Prop} (hcursors : cursors.Pairwise before) (h : d ∈ cursors)
    (hseen : d.position ∉ seen) :
    ∃ d' ∈ distinctFrom seen cursors, d'.position = d.position ∧ (d' = d ∨ before d' d) := by
  induction cursors generalizing seen with
  | nil => exact absurd h List.not_mem_nil
  | cons c cursors ih =>
    obtain ⟨hfirst, hcursors⟩ := List.pairwise_cons.mp hcursors
    rw [distinctFrom]
    by_cases hc : seen.contains c.position = true
    · rw [if_pos hc]
      rcases List.mem_cons.mp h with rfl | h
      · exact absurd (Std.ExtTreeSet.contains_iff_mem.mp hc) hseen
      · exact ih hcursors h hseen
    · rw [if_neg hc]
      -- the first cursor is kept: it serves for every cursor at its position
      by_cases hd : c.position = d.position
      · exact ⟨c, List.mem_cons_self, hd, (List.mem_cons.mp h).imp Eq.symm (hfirst d)⟩
      · rcases List.mem_cons.mp h with rfl | h
        · exact absurd rfl hd
        · have hinsert : d.position ∉ seen.insert c.position := by
            rw [Std.ExtTreeSet.mem_insert]
            rintro (heq | hmem)
            · exact hd (Std.LawfulEqOrd.eq_of_compare heq)
            · exact hseen hmem
          obtain ⟨d', hd', hposition⟩ := ih hcursors h hinsert
          exact ⟨d', List.mem_cons_of_mem c hd', hposition⟩

/-- What is kept of each position is the first cursor at it, in any order in which the cursors are
listed. -/
theorem exists_first_mem_distinct {cursors : List Cursor} {d : Cursor}
    {before : Cursor → Cursor → Prop} (hcursors : cursors.Pairwise before) (h : d ∈ cursors) :
    ∃ d' ∈ distinct cursors, d'.position = d.position ∧ (d' = d ∨ before d' d) :=
  exists_first_mem_distinctFrom hcursors h (by simp)

/-- Dropping repeated places keeps cursors only. -/
theorem mem_of_mem_distinct {cursors : List Cursor} {d : Cursor} (h : d ∈ distinct cursors) :
    d ∈ cursors := mem_of_mem_distinctFrom h

/-- Dropping repeated places keeps all positions. -/
theorem exists_mem_distinct {cursors : List Cursor} {d : Cursor} (h : d ∈ cursors) :
    ∃ d' ∈ distinct cursors, d'.position = d.position := by
  have hany : cursors.Pairwise fun _ _ => True := List.pairwise_of_forall fun _ _ => trivial
  obtain ⟨d', hd', hposition, -⟩ := exists_first_mem_distinct hany h
  exact ⟨d', hd', hposition⟩

/-! ## Finding what a relation says -/

/-- A step of the matcher finds what a relation between cursors says. What it lists is related, and it
lists every position of the text that is related, whatever the cursor there has captured. -/
structure Finds (text : List Char) (step : Cursor → List Cursor) (R : Cursor → Cursor → Prop) :
    Prop where
  /-- Related cursors have a text between them. -/
  passes : ∀ c d, R c d → ∃ w, c.Passes w d
  /-- What is listed is related. -/
  sound : ∀ c d, d ∈ step c → R c d
  /-- What is related is listed. -/
  complete : ∀ {c c' d}, c.On text → c'.On text → c'.position = c.position → R c d →
    ∃ d' ∈ step c', d'.position = d.position

namespace Finds

variable {step second : Cursor → List Cursor} {R S : Cursor → Cursor → Prop} {c c' d : Cursor}

theorem on (h : Finds text step R) (hc : c.On text) (hR : R c d) : d.On text := by
  obtain ⟨w, hw⟩ := h.passes c d hR
  exact hc.passes hw

theorem le (h : Finds text step R) (hR : R c d) : c.position ≤ d.position := by
  obtain ⟨w, hw⟩ := h.passes c d hR
  rw [hw.position]
  exact Nat.le_add_right _ _

/-- One step after another. -/
theorem seq (h₁ : Finds text step R) (h₂ : Finds text second S) :
    Finds text (fun c => distinct ((step c).flatMap second)) fun c d => ∃ m, R c m ∧ S m d where
  passes := by
    rintro c d ⟨m, hm, hd⟩
    obtain ⟨u, hu⟩ := h₁.passes c m hm
    obtain ⟨v, hv⟩ := h₂.passes m d hd
    exact ⟨u ++ v, hu.trans hv⟩
  sound := by
    intro c d hd
    obtain ⟨m, hm, hd⟩ := List.mem_flatMap.mp (mem_of_mem_distinct hd)
    exact ⟨m, h₁.sound c m hm, h₂.sound m d hd⟩
  complete := by
    rintro c c' d hc hc' hposition ⟨m, hm, hd⟩
    -- another cursor may have been kept at the place between, but its position is the same
    obtain ⟨m', hm', hmposition⟩ := h₁.complete hc hc' hposition hm
    obtain ⟨d', hd', hdposition⟩ := h₂.complete (h₁.on hc hm) (h₁.on hc' (h₁.sound c' m' hm'))
      hmposition hd
    obtain ⟨e, he, heposition⟩ := exists_mem_distinct (List.mem_flatMap.mpr ⟨m', hm', hd'⟩)
    exact ⟨e, he, heposition.trans hdposition⟩

/-- Either of two steps. -/
theorem alt (h₁ : Finds text step R) (h₂ : Finds text second S) :
    Finds text (fun c => distinct (step c ++ second c)) fun c d => R c d ∨ S c d where
  passes c d h := h.elim (h₁.passes c d) (h₂.passes c d)
  sound c d hd := (List.mem_append.mp (mem_of_mem_distinct hd)).imp (h₁.sound c d) (h₂.sound c d)
  complete := by
    intro c c' d hc hc' hposition h
    obtain ⟨d', hd', hdposition⟩ : ∃ d' ∈ step c' ++ second c', d'.position = d.position := by
      rcases h with h | h
      · obtain ⟨d', hd', hdposition⟩ := h₁.complete hc hc' hposition h
        exact ⟨d', List.mem_append_left _ hd', hdposition⟩
      · obtain ⟨d', hd', hdposition⟩ := h₂.complete hc hc' hposition h
        exact ⟨d', List.mem_append_right _ hd', hdposition⟩
    obtain ⟨e, he, heposition⟩ := exists_mem_distinct hd'
    exact ⟨e, he, heposition.trans hdposition⟩

/-- A relation that says the same. -/
theorem congr (h : Finds text step R) (hRS : ∀ c d, R c d ↔ S c d) : Finds text step S where
  passes c d hS := h.passes c d ((hRS c d).mpr hS)
  sound c d hd := (hRS c d).mp (h.sound c d hd)
  complete hc hc' hposition hS := h.complete hc hc' hposition ((hRS _ _).mpr hS)

/-- A step that stays where it is. -/
theorem pure : Finds text (fun c => [c]) fun c d => d = c where
  passes := by
    rintro c d rfl
    exact ⟨[], .refl d⟩
  sound c d hd := List.mem_singleton.mp hd
  complete := by
    rintro c c' d hc hc' hposition rfl
    exact ⟨c', List.mem_singleton_self c', hposition⟩

end Finds

end WebRouting.Regex
