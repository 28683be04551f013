import WebRouting.Proofs.Regex.Names
import WebRouting.Proofs.Regex.Reading
import WebRouting.Proofs.Regex.Size
import WebRouting.Proofs.Rule.Compile
import WebRouting.Proofs.Text.Split
import WebRouting.Route.Basic

/-! # Patterns of rules

The pattern of a rule with parameters is put together as text and read as a whole. What is read is a
sequence of the items of the segments (`Segment.items`), between the start and the end of the text
(`read?_anchored`). `Segment.Ends` says what one segment passes over: a literal text passes over itself,
and a parameter passes over what the pattern of its filter, read by itself, may pass over, and records
it. The whole expression passes over its segments in turn (`ends_expression`). -/

namespace WebRouting

open Regex

/-- The filter's pattern means something by itself. It has no assertions and sets no flags, unless for
a group of its own. -/
structure Filter.StandsAlone (f : Filter) : Prop where
  /-- The pattern means an expression without assertions. -/
  parses : ∃ r, parse? f.pattern.toList = some r ∧ r.AssertionFree
  /-- The pattern sets no flags for what follows it. -/
  flags : SetsNoFlags f.pattern.toList

instance (f : Filter) : Decidable f.StandsAlone :=
  decidable_of_iff ((parse? f.pattern.toList).any (decide ·.AssertionFree) = true ∧
      SetsNoFlags f.pattern.toList) <| by
    simp only [Option.any_eq_true, decide_eq_true_iff]
    exact ⟨fun h => ⟨h.1, h.2⟩, fun h => ⟨h.parses, h.flags⟩⟩

/-- What the pattern of the filter means by itself. -/
def Filter.expression (f : Filter) : Regex := (parse? f.pattern.toList).getD .empty

theorem Filter.expression_eq {f : Filter} {r : Regex} (h : parse? f.pattern.toList = some r) :
    f.expression = r := by
  rw [expression, h, Option.getD_some]

theorem Filter.StandsAlone.parse?_eq {f : Filter} (h : f.StandsAlone) :
    parse? f.pattern.toList = some f.expression := by
  obtain ⟨r, hparse, -⟩ := h.parses
  rw [hparse, Filter.expression_eq hparse]

theorem Filter.StandsAlone.assertionFree {f : Filter} (h : f.StandsAlone) :
    f.expression.AssertionFree := by
  obtain ⟨r, hparse, hfree⟩ := h.parses
  rwa [Filter.expression_eq hparse]

/-- Ranges cover what one of them covers. -/
theorem Ranges.covers_of_mem {r : Ranges} {first last code : Nat} (h : (first, last) ∈ r)
    (hfirst : first ≤ code) (hlast : code ≤ last) : r.covers code = true :=
  List.any_eq_true.mpr ⟨_, h, by simp [hfirst, hlast]⟩

namespace Rule

/-! ## Segments -/

/-- The items of a segment in the expression of a rule: the characters of a literal text, and a group
with the expression of the filter for a parameter. -/
def Segment.items : Segment → List Regex
  | literal text => text.toList.map fun x => .char (.single x)
  | param name filter => [.group (some name) filter.expression]

/-- The expression between the start and the end of the text to which a rule is compiled. -/
def Compiled.expression (c : Compiled) : Regex :=
  seqReversed (c.segments.flatMap Segment.items).reverse

/-- Where a segment may end that starts at a cursor. -/
def Segment.Ends : Segment → Cursor → Cursor → Prop
  | literal text, c, d => c.Passes text.toList d ∧ d.captures = c.captures
  | param name filter, c, d => ∃ r m, parse? filter.pattern.toList = some r ∧ r.Ends c m ∧
      d = c.capture (some name) m

/-- Where segments may end that are passed in turn. -/
def SegmentsEnd : List Segment → Cursor → Cursor → Prop
  | [], c, d => d = c
  | s :: segments, c, d => ∃ m, s.Ends c m ∧ SegmentsEnd segments m d

/-- The segment can be read from its source: a parameter has the name of a group and a filter whose
pattern stands alone. -/
def Segment.Readable : Segment → Prop
  | literal _ => True
  | param name filter => isName name.toList = true ∧ filter.StandsAlone

variable {r out : Reading} {t : List Char}

theorem not_mem_of_isName {name : List Char} (h : isName name = true) : '>' ∉ name := by
  cases name with
  | nil => exact List.not_mem_nil
  | cons c cs =>
    obtain ⟨hc, hcs⟩ := Bool.and_eq_true_iff.mp h
    intro hmem
    rcases List.mem_cons.mp hmem with rfl | hmem
    · exact absurd hc (by decide)
    · exact absurd (List.all_eq_true.mp hcs _ hmem) (by decide)

/-- The letters of ASCII are letters. -/
theorem isAlphabetic_of_isAlpha {c : Char} (h : c.isAlpha = true) :
    Unicode.isAlphabetic c = true := by
  rcases bounds_of_isAlpha h with hupper | hlower
  · have hrange : (0x41, 0x5A) ∈ Unicode.uppercaseLetter := List.mem_cons_self
    have hmem : (0x41, 0x5A) ∈ Unicode.alphabetic := by
      simp [Unicode.alphabetic, Unicode.letter, Unicode.casedLetter, hrange]
    exact Ranges.covers_of_mem hmem hupper.1 hupper.2
  · have hrange : (0x61, 0x7A) ∈ Unicode.lowercaseLetter := List.mem_cons_self
    have hmem : (0x61, 0x7A) ∈ Unicode.alphabetic := by
      simp [Unicode.alphabetic, Unicode.letter, Unicode.casedLetter, hrange]
    exact Ranges.covers_of_mem hmem hlower.1 hlower.2

/-- A character that may stand in the name of a parameter may stand in that of a group. -/
theorem isGroupNameChar_of_isNameChar {c : Char} (h : isNameChar c = true) :
    Regex.isNameChar c = true := by
  simp only [isNameChar, Char.isAlphanum, Bool.or_eq_true, decide_eq_true_eq] at h
  simp only [Regex.isNameChar, Unicode.isAlphanumeric, Bool.or_eq_true, decide_eq_true_eq]
  rcases h with (halpha | hdigit) | hunderscore
  · exact .inr (.inl (isAlphabetic_of_isAlpha halpha))
  · have hrange : (0x30, 0x39) ∈ Unicode.decimalNumber := List.mem_cons_self
    obtain ⟨hfirst, hlast⟩ := bounds_of_isDigit hdigit
    exact .inr (.inr (Ranges.covers_of_mem (by simp [Unicode.number, hrange]) hfirst hlast))
  · exact .inl (.inl (.inl (.inl hunderscore)))

/-- The names of parameters may be names of groups. -/
theorem isGroupName_of_isName {name : List Char} (h : isName name = true) :
    isGroupName name = true := by
  cases name with
  | nil => cases h
  | cons c cs =>
    obtain ⟨hc, hcs⟩ := Bool.and_eq_true_iff.mp h
    have hstart : Regex.isNameStart c = true := by
      simp only [isNameStart, Bool.or_eq_true, decide_eq_true_eq] at hc
      simp only [Regex.isNameStart, Bool.or_eq_true, decide_eq_true_eq]
      exact hc.symm.imp_right isAlphabetic_of_isAlpha
    have hrest : cs.all Regex.isNameChar = true :=
      List.all_eq_true.mpr fun x hx => isGroupNameChar_of_isNameChar (List.all_eq_true.mp hcs x hx)
    exact Bool.and_eq_true_iff.mpr ⟨hstart, hrest⟩

/-- The start of the group of a parameter is one token. -/
theorem run?_groupStart_eq {name : List Char} (hname : isName name = true) (hflags : r.flags = {})
    (t : List Char) :
    r.run? ("(?P<".toList ++ (name ++ '>' :: t)) =
      (r.take? (.capture (some (String.ofList name)))).bind (·.run? t) := by
  have hnext : next? r.flags ("(?P<".toList ++ (name ++ '>' :: t)) =
      some ('(', "?P<".toList ++ (name ++ '>' :: t)) := by
    rw [hflags]
    rfl
  have htoken : readToken? r.flags '(' ("?P<".toList ++ (name ++ '>' :: t)) =
      some (.capture (some (String.ofList name)), t) := by
    have hgroup : readToken? r.flags '(' ("?P<".toList ++ (name ++ '>' :: t)) =
        readGroupName? (name ++ '>' :: t) := by
      rw [hflags]
      rfl
    rw [hgroup, readGroupName?, Text.cut?_append_cons (not_mem_of_isName hname) t]
    exact if_pos (isGroupName_of_isName hname)
  exact Reading.run?_of_next? hnext htoken (by simp; omega)

/-- The start of the group of a parameter is read as a whole. -/
theorem run?_groupStart {name : List Char} (hname : isName name = true) (hflags : r.flags = {})
    (h : r.run? ("(?P<".toList ++ (name ++ '>' :: t)) = some out) :
    ∃ s : Reading, s.flags = {} ∧ s.level = {} ∧
      s.outer = ⟨r.level, {}, true, some (String.ofList name)⟩ :: r.outer ∧
      s.run? t = some out := by
  rw [run?_groupStart_eq hname hflags] at h
  obtain ⟨s, htake, h⟩ := Option.bind_eq_some_iff.mp h
  obtain ⟨names, rfl⟩ := Reading.exists_of_capture htake
  have hgroup : (r.openGroup r.flags true (some (String.ofList name))).outer =
      ⟨r.level, {}, true, some (String.ofList name)⟩ :: r.outer := by
    rw [Reading.openGroup, hflags]
  exact ⟨{ r.openGroup r.flags true (some (String.ofList name)) with names }, hflags, rfl, hgroup, h⟩

/-- The source of a segment is read as the items of the segment. -/
theorem run?_source {segment : Segment} (hsegment : segment.Readable) (hflags : r.flags = {})
    (h : r.run? (segment.source.toList ++ t) = some out) :
    ∃ s, r.Adds segment.items s ∧ s.run? t = some out := by
  cases segment with
  | literal text =>
    rw [Segment.source, String.toList_ofList] at h
    -- escaping leaves no character that means anything else
    obtain ⟨s, hs, -, hrun⟩ := Reading.run?_escape hflags text.toList t
    exact ⟨s, hs, hrun ▸ h⟩
  | param name filter =>
    obtain ⟨hname, hfilter⟩ := hsegment
    simp only [Segment.source, String.toList_append, List.append_assoc] at h
    -- the group opens, holds the pattern of the filter as it is by itself, and closes
    obtain ⟨opened, hflags', hlevel, houter, h⟩ := run?_groupStart hname hflags h
    obtain ⟨s, depth, hs, hlevel', houter', h⟩ :=
      Reading.run?_group hfilter.parse?_eq hfilter.flags hflags' hlevel houter h
    rw [OpenGroup.close, if_pos rfl, String.ofList_toList] at hlevel'
    exact ⟨s, .single (hs.trans hflags.symm) hlevel' houter', h⟩

/-- The sources of segments are read as the items of all of them. -/
theorem run?_sources {segments : List Segment} (hsegments : ∀ s ∈ segments, s.Readable)
    (hflags : r.flags = {})
    (h : r.run? (segments.flatMap (·.source.toList) ++ t) = some out) :
    ∃ s, r.Adds (segments.flatMap Segment.items) s ∧ s.run? t = some out := by
  induction segments generalizing r with
  | nil => exact ⟨r, .refl r, h⟩
  | cons segment segments ih =>
    rw [List.forall_mem_cons] at hsegments
    rw [List.flatMap_cons, List.append_assoc] at h
    -- the items of the segments follow each other in one branch
    obtain ⟨m, hfirst, h⟩ := run?_source hsegments.1 hflags h
    obtain ⟨s, hothers, h⟩ := ih hsegments.2 (hfirst.flags.trans hflags) h
    exact ⟨s, hfirst.trans hothers, h⟩

/-- The items of a segment pass what the segment passes. -/
theorem Segment.ends_items {segment : Segment} (hsegment : segment.Readable) {c d : Cursor} :
    (seqReversed segment.items.reverse).Ends c d ↔ segment.Ends c d := by
  cases segment with
  | literal text => exact ends_characters
  | param name filter =>
    obtain ⟨-, hfilter⟩ := hsegment
    rw [items, List.reverse_singleton, ends_seqReversed_singleton]
    constructor
    · rintro ⟨m, hm, rfl⟩
      exact ⟨_, m, hfilter.parse?_eq, hm, rfl⟩
    · rintro ⟨r, m, hparse, hm, rfl⟩
      rw [← Filter.expression_eq hparse] at hm
      exact ⟨m, hm, rfl⟩

/-- The expression of a rule passes over the segments in turn. -/
theorem ends_expression {segments : List Segment} (hsegments : ∀ s ∈ segments, s.Readable)
    {c d : Cursor} :
    (Compiled.mk segments).expression.Ends c d ↔ SegmentsEnd segments c d := by
  rw [Compiled.expression]
  induction segments generalizing c with
  | nil => exact Iff.rfl
  | cons segment segments ih =>
    rw [List.forall_mem_cons] at hsegments
    rw [List.flatMap_cons, List.reverse_append, ends_seqReversed_append]
    simp only [Segment.ends_items hsegments.1, ih hsegments.2]
    rfl

/-! ## Names of groups -/

/-- The names of the groups of a segment: that of a parameter, and those in the pattern of its filter. -/
def Segment.groupNames : Segment → List String
  | literal _ => []
  | param name filter => name :: filter.expression.groupNames

theorem Segment.flatMap_groupNames_items (segment : Segment) :
    segment.items.flatMap Regex.groupNames = segment.groupNames := by
  cases segment with
  | literal text => simp [items, groupNames, List.flatMap_map, Regex.groupNames]
  | param name filter => simp [items, groupNames, Regex.groupNames]

/-- The groups of the expression of a rule are those of its segments. -/
theorem groupNames_expression (segments : List Segment) :
    (Compiled.mk segments).expression.groupNames = segments.flatMap Segment.groupNames := by
  rw [Compiled.expression, groupNames_seqReversed, List.reverse_reverse, List.flatMap_assoc]
  exact congrArg (segments.flatMap ·) (funext Segment.flatMap_groupNames_items)

/-! ## The whole pattern -/

/-- The reading of a pattern after the anchor at its start and the opening of the group for the rule. -/
def anchoredStart : Reading where
  outer := [⟨({} : Level).add (.assert .textStart) 0, {}, false, none⟩]

theorem run?_anchoredStart (cs : List Char) :
    ({} : Reading).run? ("^(?:".toList ++ cs) = anchoredStart.run? cs := by
  have hcaret : readToken? {} '^' ("(?:".toList ++ cs) =
      some (.atom (.assert .textStart) 0, "(?:".toList ++ cs) := rfl
  have hgroup : readToken? {} '(' ("?:".toList ++ cs) = some (.group {}, cs) := rfl
  let afterCaret : Reading := { level := ({} : Level).add (.assert .textStart) 0 }
  have hfirst : ({} : Reading).run? ("^(?:".toList ++ cs) =
      (({} : Reading).take? (.atom (.assert .textStart) 0)).bind (·.run? ("(?:".toList ++ cs)) :=
    Reading.run?_of_next? rfl hcaret (by simp)
  have hsecond : afterCaret.run? ("(?:".toList ++ cs) =
      (afterCaret.take? (.group {})).bind (·.run? cs) :=
    Reading.run?_of_next? rfl hgroup (by simp; omega)
  exact hfirst.trans hsecond

/-- The pattern ends with the parenthesis that closes the group for the rule and the anchor. It is nested
deeper than what is in the group. -/
theorem run?_anchoredEnd {items : List Regex} (hr : anchoredStart.Adds items r) :
    ∃ out, r.run? ")$".toList = some out ∧
      out.finish? = some (seqReversed items.reverse).wholeText ∧
      r.level.depth < out.level.depth := by
  have hparen : next? r.flags ")$".toList = some (')', "$".toList) := by
    rw [hr.flags]
    rfl
  have hgroupEnd : readToken? r.flags ')' "$".toList = some (.groupEnd, "$".toList) := rfl
  have hdollar : readToken? {} '$' [] = some (.atom (.assert .textEnd) 0, []) := rfl
  rw [Reading.run?_of_next? hparen hgroupEnd (by simp), Reading.take?_groupEnd hr.outer,
    Option.bind_some, Reading.run?_of_next? rfl hdollar (by simp), Reading.take?, Option.bind_some,
    Reading.run?_of_next?_eq_none (Reading.next?_nil _)]
  -- the group around the rule has one branch, the items of the segments
  have hvalue : r.level.value = seqReversed items.reverse := by
    rw [Level.value, hr.branches, hr.items]
    exact congrArg seqReversed (List.append_nil _)
  refine ⟨_, rfl, congrArg (some ∘ wholeText) hvalue, ?_⟩
  exact Level.le_depth_of_mem (List.mem_cons_of_mem _ List.mem_cons_self)

/-- The text between the start and the end of the pattern is made of the sources of the segments. -/
theorem toList_anchored_source (compiled : Compiled) : (Matcher.anchored compiled.source).toList =
    "^(?:".toList ++ (compiled.segments.flatMap (·.source.toList) ++ ")$".toList) := by
  rw [Matcher.anchored, Compiled.source, String.toList_append, String.toList_append,
    String.toList_join, List.flatMap_map, List.append_assoc]

/-- The pattern of a rule is the expression of the rule for the whole text. -/
theorem read?_anchored {compiled : Compiled} {expression : Regex}
    (hsegments : ∀ s ∈ compiled.segments, s.Readable)
    (h : read? (Matcher.anchored compiled.source).toList = some expression) :
    expression = compiled.expression.wholeText := by
  obtain ⟨out, hrun, hfinish, -⟩ := read?_eq_some_iff.mp h
  rw [toList_anchored_source, run?_anchoredStart] at hrun
  obtain ⟨s, hs, hrun⟩ := run?_sources hsegments rfl hrun
  obtain ⟨out', hrun', hfinish', -⟩ := run?_anchoredEnd hs
  obtain rfl := Option.some.inj (hrun.symm.trans hrun')
  exact Option.some.inj (hfinish.symm.trans hfinish')

end Rule

end WebRouting
