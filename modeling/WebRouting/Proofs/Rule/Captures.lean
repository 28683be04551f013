import WebRouting.Proofs.Filter.Builtin

/-! # Captures of rules

A path that the segments of a rule pass over falls into parts that they cover, and the place behind it
has captured under the name of each parameter the part of the parameter (`exists_captured_parts`). This
takes a rule in whose expression no two groups have the same name, be they those of parameters or of
filters (`groupNames`). -/

namespace WebRouting

open Regex

namespace Rule

variable {segments : List Segment} {c d : Cursor} {name : String}

/-- The segment covers a part of a path, and the cursor has it as the text of the group of the segment
if the segment is a parameter. -/
def Segment.Captured (last : Cursor) : Segment → String → Prop
  | literal text, part => part = text
  | param name filter, part => filter.accepts part = true ∧ last.captured name = part

theorem Segment.Captured.covers {segment : Segment} {last : Cursor} {part : String}
    (h : segment.Captured last part) : segment.Covers part := by
  cases segment with
  | literal text => exact h
  | param name filter => exact h.1

/-! ## Filters without named groups -/

/-- Where no filter has groups with names, the groups are those of the parameters. -/
theorem groupNames_of_unnamed
    (hfilters : ∀ param ∈ (Compiled.mk segments).params, param.2.expression.unnamed = true) :
    segments.flatMap Segment.groupNames = (Compiled.mk segments).paramNames := by
  induction segments with
  | nil => rfl
  | cons segment segments ih =>
    cases segment with
    | literal text => exact ih hfilters
    | param name filter =>
      obtain ⟨hunnamed, hfilters⟩ := List.forall_mem_cons.mp hfilters
      rw [List.flatMap_cons, Segment.groupNames, groupNames_eq_nil_of_unnamed hunnamed, ih hfilters]
      rfl

/-! ## Parts -/

/-- What has been captured under a name stays when segments are passed that have no group of this
name. -/
theorem captured_of_segmentsEnd (hname : name ∉ segments.flatMap Segment.groupNames)
    (h : SegmentsEnd segments c d) : d.captured name = c.captured name := by
  induction segments generalizing c with
  | nil => rw [show d = c from h]
  | cons segment segments ih =>
    obtain ⟨m, hm, hd⟩ := h
    rw [List.flatMap_cons, List.mem_append, not_or] at hname
    obtain ⟨hfirst, hothers⟩ := hname
    cases segment with
    | literal text => rw [ih hothers hd, Cursor.captured_of_captures hm.2]
    | param other filter =>
      obtain ⟨hne, hfilter⟩ := List.ne_and_not_mem_of_not_mem_cons hfirst
      obtain ⟨r, e, hparse, he, rfl⟩ := hm
      rw [Filter.expression_eq hparse] at hfilter
      rw [ih hothers hd, Cursor.captured_capture_of_ne hne, captured_of_not_mem_groupNames he hfilter]

/-- What segments pass over falls into parts that they cover, and the parts of parameters have been
captured under their names. -/
theorem exists_captured_of_nodup (hnodup : (segments.flatMap Segment.groupNames).Nodup)
    (hfilters : ∀ param ∈ (Compiled.mk segments).params, param.2.StandsAlone)
    (h : SegmentsEnd segments c d) :
    ∃ parts, c.rest = (String.join parts).toList ++ d.rest ∧
      List.Forall₂ (Segment.Captured d) segments parts := by
  induction segments generalizing c with
  | nil =>
    obtain rfl : d = c := h
    exact ⟨[], rfl, .nil⟩
  | cons segment segments ih =>
    obtain ⟨m, hm, hd⟩ := h
    obtain ⟨hfirst, hothers, hdisjoint⟩ := List.nodup_append.mp hnodup
    cases segment with
    | literal text =>
      obtain ⟨parts, hparts, hall⟩ := ih hothers hfilters hd
      refine ⟨text :: parts, ?_, .cons rfl hall⟩
      rw [hm.1.rest, hparts, String.join_cons, String.toList_append, List.append_assoc]
    | param name filter =>
      obtain ⟨hfilter, hfilters⟩ := List.forall_mem_cons.mp hfilters
      obtain ⟨r, e, hparse, he, rfl⟩ := hm
      obtain ⟨w, hw⟩ := he.passes
      obtain ⟨parts, hparts, hall⟩ := ih hothers hfilters hd
      have hfree := hfilter.assertionFree
      rw [Filter.expression_eq hparse] at hfree
      have haccepts := Filter.accepts_of_ends hparse hfree he hw
      -- no later group has the name, so what is captured here is there at the end
      have hname : name ∉ segments.flatMap Segment.groupNames := fun hmem =>
        hdisjoint name List.mem_cons_self name hmem rfl
      have hcaptured := captured_of_segmentsEnd hname hd
      rw [Cursor.captured_capture hw] at hcaptured
      refine ⟨String.ofList w :: parts, ?_, .cons ⟨haccepts, hcaptured⟩ hall⟩
      rw [String.join_cons, String.toList_append, List.append_assoc, String.toList_ofList, ← hparts]
      exact hw.rest

/-- Parts that segments cover can be passed in such a way that they are captured. -/
theorem exists_segmentsEnd_captured (hnodup : (segments.flatMap Segment.groupNames).Nodup)
    (hsegments : ∀ s ∈ segments, s.Readable) {parts : List String} {t : List Char}
    (hparts : List.Forall₂ Segment.Covers segments parts)
    (hc : c.rest = (String.join parts).toList ++ t) :
    ∃ d, SegmentsEnd segments c d ∧ d.rest = t ∧ List.Forall₂ (Segment.Captured d) segments parts := by
  induction hparts generalizing c with
  | nil => exact ⟨c, rfl, hc, .nil⟩
  | @cons segment part segments parts hpart _ ih =>
    obtain ⟨-, hothers, hdisjoint⟩ := List.nodup_append.mp hnodup
    obtain ⟨hsegment, hreadable⟩ := List.forall_mem_cons.mp hsegments
    rw [String.join_cons, String.toList_append, List.append_assoc] at hc
    cases segment with
    | literal text =>
      obtain rfl : part = text := hpart
      obtain ⟨m, hpasses, hcaptures, hrest⟩ := Cursor.exists_passes hc
      obtain ⟨d, hd, ht, hall⟩ := ih hothers hreadable hrest
      exact ⟨d, ⟨m, ⟨hpasses, hcaptures⟩, hd⟩, ht, .cons rfl hall⟩
    | param name filter =>
      obtain ⟨-, hfilter⟩ := hsegment
      have haccepts : filter.accepts part = true := hpart
      obtain ⟨e, he, hrest⟩ := (hfilter.assertionFree.exists_ends_iff hc).mpr
        ((Filter.accepts_iff hfilter.parse?_eq part).mp haccepts)
      obtain ⟨w, hw⟩ := he.passes
      obtain rfl : w = part.toList := by
        have hboth := hw.rest
        rw [hc, hrest] at hboth
        exact (List.append_cancel_right hboth).symm
      obtain ⟨d, hd, ht, hall⟩ := ih (c := c.capture (some name) e) hothers hreadable hrest
      -- no later group has the name, so the part is there at the end
      have hname : name ∉ segments.flatMap Segment.groupNames := fun hmem =>
        hdisjoint name List.mem_cons_self name hmem rfl
      have hcaptured := captured_of_segmentsEnd hname hd
      rw [Cursor.captured_capture hw, String.ofList_toList] at hcaptured
      exact ⟨d, ⟨_, ⟨_, e, hfilter.parse?_eq, he, rfl⟩, hd⟩, ht, .cons ⟨haccepts, hcaptured⟩ hall⟩

/-- Without named groups in the patterns of filters it is enough that the names of parameters differ. -/
theorem exists_captured_parts (hnodup : (Compiled.mk segments).paramNames.Nodup)
    (hfilters : ∀ param ∈ (Compiled.mk segments).params, param.2.Segmental)
    (h : SegmentsEnd segments c d) :
    ∃ parts, c.rest = (String.join parts).toList ++ d.rest ∧
      List.Forall₂ (Segment.Captured d) segments parts := by
  have hunnamed : ∀ param ∈ (Compiled.mk segments).params, param.2.expression.unnamed = true :=
    fun param hparam =>
      ((hfilters param hparam).expression _ (hfilters param hparam).standsAlone.parse?_eq).2
  rw [← groupNames_of_unnamed hunnamed] at hnodup
  exact exists_captured_of_nodup hnodup (fun param hparam => (hfilters param hparam).standsAlone) h

end Rule

end WebRouting
