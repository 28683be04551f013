import WebRouting.Proofs.Regex.Preference
import WebRouting.Proofs.Rule.Captures

/-! # Greedy rules

Of the ways in which a path falls into parts that the segments of a rule cover, the one that is found
takes the longest part at the first parameter where there is a choice (`longerFirst_of_search`). This
holds if the expression of each filter lists its ends from the longest on, as those of the built-in
filters do (`Filter.IsBuiltin.longestFirst`): what has been captured ranks the ways by the lengths of
their parts. -/

namespace WebRouting

open Regex

/-! ## Filters -/

/-- The expression of the filter lists its ends from the longest on. -/
def Filter.LongestFirst (f : Filter) : Prop := ∀ c, Descending (f.expression.run c)

namespace Filter

variable {allowed : CharClass} {c : Cursor}

/-- Nothing of a class can be taken where none of its characters is ahead. -/
theorem run_someOf_eq_nil {x : Char} {rest : List Char} (hrest : c.rest = x :: rest)
    (hx : allowed.contains x = false) : (someOf allowed).run c = [] := by
  refine List.eq_nil_iff_forall_not_mem.mpr fun d hd => ?_
  obtain ⟨n, ⟨hleast, -⟩, hrounds⟩ := (finds_run [] (someOf allowed)).sound c d hd
  cases hrounds with
  | zero => exact absurd hleast (by decide)
  | succ first _ =>
    obtain ⟨y, hy, hpasses, -⟩ := Cursor.advance?_eq_some_iff.mp first
    obtain ⟨rfl, -⟩ := List.cons.inj (hrest.symm.trans hpasses.rest)
    rw [hx] at hy
    cases hy

/-- A minus or nothing. -/
def sign : Regex := .seq .empty (.rep (.char (.single '-')) 0 (some 1) true)

/-- Behind a sign is a place behind a minus or behind nothing. -/
theorem exists_passes_of_mem_run_sign {m : Cursor} (h : m ∈ sign.run c) :
    ∃ negative, c.Passes (Double.signText negative) m := by
  have hends := (finds_run [] sign).sound c m h
  have hminus : (Regex.rep (.char (.single '-')) 0 (some 1) true).AssertionFree := trivial
  have hfree : sign.AssertionFree := ⟨trivial, hminus⟩
  obtain ⟨w, hw⟩ := hends.passes
  have hmatches := (hfree.exists_ends_iff hw.rest).mp ⟨m, hends, rfl⟩
  obtain ⟨negative, rfl⟩ := isMinus_iff.mp ((matches_empty_seq hminus).mp hmatches)
  exact ⟨negative, hw⟩

/-- Where a minus can be taken as a sign, nothing is found without it. -/
theorem descending_run_signedSomeOf (hminus : allowed.contains '-' = false) (c : Cursor) :
    Descending ((signedSomeOf allowed).run c) := by
  have hrun : (signedSomeOf allowed).run c =
      distinct ((sign.run c).flatMap (someOf allowed).run) := rfl
  rw [hrun]
  refine Descending.distinct (List.pairwise_flatMap.mpr ⟨fun m _ => descending_run_rep_char m, ?_⟩)
  have hapart : (sign.run c).Pairwise fun x y => x.position ≠ y.position :=
    List.pairwise_map.mp (nodup_position_distinct _)
  refine hapart.imp_of_mem fun {x y} hx hy hne => ?_
  obtain ⟨a, ha⟩ := exists_passes_of_mem_run_sign hx
  obtain ⟨b, hb⟩ := exists_passes_of_mem_run_sign hy
  -- a minus that is ahead of a place is nothing of the class
  have hnone : ∀ m n, c.Passes (Double.signText false) m → c.Passes (Double.signText true) n →
      (someOf allowed).run m = [] := by
    intro m n hm hn
    have hrest : m.rest = '-' :: n.rest := hm.rest.symm.trans hn.rest
    exact run_someOf_eq_nil hrest hminus
  have hempty : (someOf allowed).run x = [] ∨ (someOf allowed).run y = [] := by
    cases a with
    | false =>
      cases b with
      | false => exact absurd (ha.position.trans hb.position.symm) hne
      | true => exact .inl (hnone x y ha hb)
    | true =>
      cases b with
      | false => exact .inr (hnone y x hb ha)
      | true => exact absurd (ha.position.trans hb.position.symm) hne
  intro d hd e he
  rcases hempty with hempty | hempty
  · rw [hempty] at hd
    exact absurd hd List.not_mem_nil
  · rw [hempty] at he
    exact absurd he List.not_mem_nil

/-- The built-in filters take as much as they can at first. -/
theorem IsBuiltin.longestFirst {f : Filter} (h : f.IsBuiltin) : f.LongestFirst := by
  intro c
  obtain rfl | rfl | rfl := h
  · rw [expression_eq parse?_string]
    have hrun : (Regex.seq .empty (someOf notSlash)).run c =
        distinct ([c].flatMap (someOf notSlash).run) := rfl
    rw [hrun, List.flatMap_singleton]
    exact (descending_run_rep_char c).distinct
  · rw [expression_eq parse?_int]
    exact descending_run_signedSomeOf (by decide +kernel) c
  · rw [expression_eq parse?_float]
    exact descending_run_signedSomeOf (by decide +kernel) c

end Filter

/-! ## Lengths of captures -/

/-- The lengths of what has been captured under names. -/
def Cursor.lengths (c : Cursor) (names : List String) : List Nat :=
  names.map fun name => (c.captured name).length

@[simp] theorem Cursor.length_lengths (c : Cursor) (names : List String) :
    (c.lengths names).length = names.length := List.length_map _

namespace Rule

variable {registry : Registry} {text : List Char} {items : List Regex} {names : List String}
  {segments : List Segment} {tokens : List Token} {name : String}

/-- A parameter adds the length of what it passes. -/
theorem lengths_capture {r : Regex} {m d : Cursor} (hname : name ∉ names)
    (hnames : ∀ other ∈ names, other ∉ r.groupNames) (h : (Regex.group (some name) r).Ends m d) :
    d.lengths (names ++ [name]) = m.lengths names ++ [d.position - m.position] := by
  obtain ⟨e, he, rfl⟩ := h
  obtain ⟨w, hw⟩ := he.passes
  rw [Cursor.lengths, List.map_append]
  refine congrArg₂ (· ++ ·) (List.map_congr_left fun other hother => ?_) ?_
  · have hne : other ≠ name := fun heq => hname (heq ▸ hother)
    rw [Cursor.captured_capture_of_ne hne, captured_of_not_mem_groupNames he (hnames other hother)]
  · have hlength : (m.capture (some name) e).position - m.position = w.length := by
      show e.position - m.position = w.length
      rw [hw.position, Nat.add_sub_cancel_left]
    rw [List.map_singleton, Cursor.captured_capture hw, String.length_ofList, hlength]

/-- A sequence stays run in the order of the lengths of its captures with a parameter more. -/
theorem runsRanked_param {filter : Filter} (hfilter : filter.LongestFirst) (hname : name ∉ names)
    (hnames : ∀ other ∈ names, other ∉ filter.expression.groupNames)
    (h : RunsRanked text (·.lengths names) (seqReversed items)) :
    RunsRanked text (·.lengths (names ++ [name]))
      (seqReversed (.group (some name) filter.expression :: items)) := by
  have hgrows : ∀ m d, (Regex.group (some name) filter.expression).Ends m d →
      d.lengths (names ++ [name]) = m.lengths names ++ [d.position - m.position] :=
    fun m d hd => lengths_capture hname hnames hd
  refine h.cons (fun x y => by simp) (fun n => [n]) hgrows fun m => ?_
  -- longer parts come first, and the lengths before are the same
  refine List.pairwise_map.mpr ((hfilter m).imp_of_mem fun {x y} hx hy hlt => ?_)
  have hfinds := finds_run [] filter.expression
  have hle := hfinds.le (hfinds.sound m y hy)
  rw [hgrows m _ ⟨x, hfinds.sound m x hx, rfl⟩, hgrows m _ ⟨y, hfinds.sound m y hy, rfl⟩]
  refine List.append_left_lt (List.cons_lt_cons_iff.mpr (.inl ?_))
  show y.position - m.position < x.position - m.position
  omega

/-- The expression of segments is run in the order of the lengths of their captures. -/
theorem runsRanked_segments (hnodup : (names ++ segments.flatMap Segment.groupNames).Nodup)
    (hfilters : ∀ param ∈ (Compiled.mk segments).params, param.2.LongestFirst)
    (h : RunsRanked text (·.lengths names) (seqReversed items)) :
    RunsRanked text (·.lengths (names ++ (Compiled.mk segments).paramNames))
      (seqReversed ((segments.flatMap Segment.items).reverse ++ items)) := by
  induction segments generalizing items names with
  | nil =>
    have hnames : names ++ (Compiled.mk []).paramNames = names := List.append_nil names
    rw [hnames]
    exact h
  | cons segment segments ih =>
    rw [List.flatMap_cons, List.reverse_append, List.append_assoc]
    cases segment with
    | literal text =>
      refine ih hnodup hfilters (h.characters (fun x y => by simp) (fun m d hcaptures => ?_) text.toList)
      simp only [Cursor.lengths, Cursor.captured_of_captures hcaptures]
    | param name filter =>
      obtain ⟨hfilter, hfilters⟩ := List.forall_mem_cons.mp hfilters
      rw [List.flatMap_cons, Segment.groupNames] at hnodup
      obtain ⟨-, -, hdisjoint⟩ := List.nodup_append.mp hnodup
      have hname : name ∉ names := fun hmem =>
        hdisjoint name hmem name (List.mem_append_left _ List.mem_cons_self) rfl
      have hnames : ∀ other ∈ names, other ∉ filter.expression.groupNames := fun other hother hmem =>
        hdisjoint other hother other (List.mem_append_left _ (List.mem_cons_of_mem _ hmem)) rfl
      -- the names of groups within the filter are left out
      have hsublist : ((names ++ [name]) ++ segments.flatMap Segment.groupNames).Sublist
          (names ++ ((name :: filter.expression.groupNames) ++
            segments.flatMap Segment.groupNames)) := by
        rw [List.append_assoc]
        exact ((List.sublist_append_right ..).cons_cons name).append_left names
      have hparams : names ++ (Compiled.mk (.param name filter :: segments)).paramNames =
          (names ++ [name]) ++ (Compiled.mk segments).paramNames :=
        (List.append_cons names name _)
      rw [hparams]
      exact ih (hnodup.sublist hsublist) hfilters (runsRanked_param hfilter hname hnames h)

/-- The expression of a rule is run in the order of the lengths of its parameters. -/
theorem runsRanked_expression (hnodup : (segments.flatMap Segment.groupNames).Nodup)
    (hfilters : ∀ param ∈ (Compiled.mk segments).params, param.2.LongestFirst) (text : List Char) :
    RunsRanked text (·.lengths (Compiled.mk segments).paramNames)
      (Compiled.mk segments).expression := by
  have hstart : RunsRanked text (·.lengths []) (seqReversed []) := .nil text _
  have hnames : ([] ++ segments.flatMap Segment.groupNames).Nodup := hnodup
  have hsegments := runsRanked_segments hnames hfilters hstart
  rwa [List.append_nil] at hsegments

/-! ## Longer parts first -/

/-- At the first placeholder whose parts in two splits of a path differ, that of the first split is
longer. -/
def LongerFirst (tokens : List Token) (parts others : List String) : Prop :=
  ∃ before filter name after same part partsAfter other othersAfter,
    tokens = before ++ .param filter name :: after ∧ same.length = before.length ∧
      parts = same ++ part :: partsAfter ∧ others = same ++ other :: othersAfter ∧
      other.length < part.length

theorem LongerFirst.cons {parts others : List String} (h : LongerFirst tokens parts others)
    (token : Token) (part : String) :
    LongerFirst (token :: tokens) (part :: parts) (part :: others) := by
  obtain ⟨before, filter, name, after, same, longer, partsAfter, shorter, othersAfter, rfl, hlength,
    rfl, rfl, hlt⟩ := h
  exact ⟨token :: before, filter, name, after, part :: same, longer, partsAfter, shorter,
    othersAfter, rfl, congrArg Nat.succ hlength, rfl, rfl, hlt⟩

/-- Of two splits of a path, the one whose captures are ranked higher has the longer part first. -/
theorem longerFirst_of_lengths_le {parts others : List String} {x y : Cursor}
    (hcompiles : List.Forall₂ (Compiles registry) tokens segments)
    (hparts : List.Forall₂ (Segment.Captured x) segments parts)
    (hothers : List.Forall₂ (Segment.Captured y) segments others)
    (hjoin : String.join others = String.join parts)
    (hle : y.lengths (Compiled.mk segments).paramNames ≤ x.lengths (Compiled.mk segments).paramNames)
    (hne : others ≠ parts) : LongerFirst tokens parts others := by
  induction hcompiles generalizing parts others with
  | nil =>
    cases hparts
    cases hothers
    exact absurd rfl hne
  | @cons token segment tokens segments hfirst _ ih =>
    cases hparts with
    | @cons _ part _ parts hpart hparts =>
    cases hothers with
    | @cons _ other _ others hother hothers =>
    have hchars : other.toList ++ (String.join others).toList =
        part.toList ++ (String.join parts).toList := by
      rw [← String.toList_append, ← String.toList_append, ← String.join_cons, ← String.join_cons,
        hjoin]
    cases hfirst with
    | literal text =>
      obtain rfl : part = text := hpart
      obtain rfl : other = part := hother
      refine (ih hparts hothers ?_ hle fun heq => hne (heq ▸ rfl)).cons _ _
      exact String.toList_injective (List.append_cancel_left hchars)
    | @param filter name spec hspec =>
      obtain ⟨-, rfl⟩ := hpart
      obtain ⟨-, rfl⟩ := hother
      have hlengths : (y.captured name).length :: y.lengths (Compiled.mk segments).paramNames ≤
          (x.captured name).length :: x.lengths (Compiled.mk segments).paramNames := hle
      rcases cons_le_cons_iff.mp hlengths with hlt | ⟨hlength, hle⟩
      · exact ⟨[], filter, name, tokens, [], _, parts, _, others, rfl, rfl, rfl, rfl, hlt⟩
      · -- parts of one length at one place of the path are the same
        obtain ⟨hpart, hjoin⟩ := List.append_inj hchars hlength
        rw [String.toList_inj] at hpart hjoin
        rw [hpart] at hne ⊢
        exact (ih hparts hothers hjoin hle fun heq => hne (heq ▸ rfl)).cons _ _

/-- What is found in a path has the longer part first against all other parts that the segments cover. -/
theorem longerFirst_of_search {path : String} {last : Cursor} {parts others : List String}
    (hcompiles : List.Forall₂ (Compiles registry) tokens segments)
    (hsegments : ∀ s ∈ segments, s.Readable)
    (hnodup : (segments.flatMap Segment.groupNames).Nodup)
    (hfilters : ∀ param ∈ (Compiled.mk segments).params, param.2.LongestFirst)
    (hlast : (Compiled.mk segments).expression.wholeText.search path = some last)
    (hjoin : String.join parts = path) (hparts : List.Forall₂ (Segment.Captured last) segments parts)
    (hothersJoin : String.join others = path) (hothers : List.Forall₂ Segment.Covers segments others)
    (hne : others ≠ parts) : LongerFirst tokens parts others := by
  have hstart : (Cursor.start path.toList).rest = (String.join others).toList ++ [] := by
    rw [List.append_nil, hothersJoin]
    rfl
  -- the other parts can be captured as well, on a way that is not ranked higher
  obtain ⟨d, hd, hrest, hcaptured⟩ := exists_segmentsEnd_captured hnodup hsegments hothers hstart
  have hranked := runsRanked_expression hnodup hfilters path.toList
  have hle := hranked.le_of_search hlast ((ends_expression hsegments).mpr hd) hrest
  exact longerFirst_of_lengths_le hcompiles hparts hcaptured (hothersJoin.trans hjoin.symm) hle hne

end Rule

end WebRouting
