import WebRouting.Proofs.Regex.Repetition

/-! # Running expressions

`Regex.run` finds what `Regex.Ends` says (`finds_run`). An expression between the assertions of the
start and the end of the text is found exactly if it matches the whole text
(`isMatch_wholeText`), and what is found comes with the captures of one way of matching
(`ends_of_search_wholeText`). -/

namespace WebRouting.Regex

variable {text : List Char}

/-- Running an expression finds what the expression means. -/
theorem finds_run (text : List Char) (r : Regex) : Finds text r.run r.Ends := by
  induction r with
  | empty => exact .pure
  | char allowed =>
    refine ⟨fun c d => Ends.passes (r := .char allowed), fun c d hd => ?_, ?_⟩
    · exact Option.mem_toList.mp hd
    · intro c c' d hc hc' hposition h
      obtain ⟨x, hx, hpasses, -⟩ := Cursor.advance?_eq_some_iff.mp h
      have hrest := hpasses.rest
      rw [← (hc.eq_of_position hc' hposition).1] at hrest
      obtain ⟨d', hd', -⟩ := Cursor.exists_advance? hrest hx
      obtain ⟨x', -, hpasses', -⟩ := Cursor.advance?_eq_some_iff.mp hd'
      refine ⟨d', Option.mem_toList.mpr hd', ?_⟩
      rw [hpasses.position, hpasses'.position, hposition]
      rfl
  | assert a =>
    refine ⟨fun c d => Ends.passes (r := .assert a), fun c d hd => ?_, ?_⟩
    · rw [run] at hd
      split at hd
      · next hholds => exact ⟨hholds, List.mem_singleton.mp hd⟩
      · exact absurd hd List.not_mem_nil
    · rintro c c' d hc hc' hposition ⟨hholds, rfl⟩
      obtain ⟨hrest, hprevious⟩ := hc.eq_of_position hc' hposition
      refine ⟨c', ?_, hposition⟩
      rw [run, hrest, hprevious, if_pos hholds]
      exact List.mem_singleton_self c'
  | seq first second ih₁ ih₂ => exact ih₁.seq ih₂
  | alt first second ih₁ ih₂ => exact ih₁.alt ih₂
  | rep body least most greedy ih => exact ih.repeated least most greedy
  | group name body ih =>
    refine ⟨fun c d => Ends.passes (r := .group name body), fun c d hd => ?_, ?_⟩
    · obtain ⟨m, hm, rfl⟩ := List.mem_map.mp hd
      exact ⟨m, ih.sound c m hm, rfl⟩
    · rintro c c' d hc hc' hposition ⟨m, hm, rfl⟩
      obtain ⟨m', hm', hmposition⟩ := ih.complete hc hc' hposition hm
      refine ⟨c'.capture name m', List.mem_map_of_mem hm', ?_⟩
      cases name <;> exact hmposition

/-! ## Whole texts -/

/-- An expression between the assertions of the start and the end of the text. -/
def wholeText (r : Regex) : Regex := seqReversed [.assert .textEnd, r, .assert .textStart]

/-- An expression for the whole text ends at the end of a text, from its start. -/
theorem ends_wholeText {r : Regex} {c d : Cursor} :
    r.wholeText.Ends c d ↔ c.previous = none ∧ r.Ends c d ∧ d.rest = [] := by
  constructor
  -- the assertions hold where nothing is before, and nothing after
  · rintro ⟨m, ⟨s, ⟨e, rfl, hstart, rfl⟩, hm⟩, hend, rfl⟩
    exact ⟨Option.isNone_iff_eq_none.mp hstart, hm, by
      simpa [Assertion.holds, List.head?_eq_none_iff] using hend⟩
  · rintro ⟨hstart, hd, hend⟩
    refine ⟨d, ⟨c, ⟨c, rfl, ?_, rfl⟩, hd⟩, ?_, rfl⟩
    · exact Option.isNone_iff_eq_none.mpr hstart
    · simp [Assertion.holds, hend]

theorem run_wholeText_of_previous {r : Regex} {c : Cursor} {x : Char} (h : c.previous = some x) :
    r.wholeText.run c = [] := by
  refine List.eq_nil_iff_forall_not_mem.mpr fun d hd => ?_
  have hends := ends_wholeText.mp ((finds_run [] r.wholeText).sound c d hd)
  rw [h] at hends
  exact nomatch hends.1

theorem searchFrom_wholeText_of_previous (r : Regex) (position : Nat) (x : Char) (cs : List Char) :
    r.wholeText.searchFrom position (some x) cs = none := by
  induction cs generalizing position x with
  | nil =>
    rw [searchFrom, run_wholeText_of_previous rfl]
    rfl
  | cons y cs ih =>
    rw [searchFrom, run_wholeText_of_previous rfl]
    exact ih (position + 1) y

/-- An expression for the whole text is looked for at the start of the text only. -/
theorem search_wholeText (r : Regex) (text : String) :
    r.wholeText.search text = (r.wholeText.run (.start text.toList)).head? := by
  rw [search, Cursor.start]
  cases text.toList with
  | nil => rfl
  | cons x cs =>
    rw [searchFrom]
    -- later starts have a character before them
    cases h : (r.wholeText.run { position := 0, previous := none, rest := x :: cs }).head? with
    | some last => rfl
    | none => exact searchFrom_wholeText_of_previous r 1 x cs

/-- What is found for the whole text is one way of matching the text. -/
theorem ends_of_search_wholeText {r : Regex} {text : String} {last : Cursor}
    (h : r.wholeText.search text = some last) :
    r.Ends (.start text.toList) last ∧ last.rest = [] := by
  rw [search_wholeText] at h
  have hmem := List.mem_of_mem_head? (Option.mem_def.mpr h)
  exact (ends_wholeText.mp ((finds_run text.toList r.wholeText).sound _ last hmem)).2

/-- Something is found for the whole text exactly if the expression matches the text. -/
theorem isMatch_wholeText (r : Regex) (text : String) :
    r.wholeText.isMatch text = true ↔ r.Matches text.toList := by
  rw [isMatch]
  constructor
  · intro h
    obtain ⟨last, hlast⟩ := Option.isSome_iff_exists.mp h
    exact ⟨last, ends_of_search_wholeText hlast⟩
  · rintro ⟨d, hd, hrest⟩
    have hstart := Cursor.On.start text.toList
    obtain ⟨d', hd', -⟩ := (finds_run text.toList r.wholeText).complete hstart hstart rfl
      (ends_wholeText.mpr ⟨rfl, hd, hrest⟩)
    rw [search_wholeText]
    exact List.isSome_head?.mpr (List.ne_nil_of_mem hd')

end WebRouting.Regex
