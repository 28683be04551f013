import WebRouting.Handler.Basic
import WebRouting.Proofs.Route.Build
import WebRouting.Proofs.Rule.Pattern

/-! # Languages of rules

A route with parameters matches the paths that fall into one part for each token of its rule: a
literal covers its text, and a parameter covers what the pattern of its filter matches by itself
(`Route.matchesPath_iff_covers`). Nothing in the text of a literal or in the pattern of a filter
reaches beyond its own part. -/

namespace WebRouting

open Regex

/-- Whether the pattern of the filter, by itself, matches a text from its start to its end. -/
def Filter.accepts (f : Filter) (text : String) : Bool :=
  (parse? f.pattern.toList).any fun r => r.wholeText.isMatch text

theorem Filter.accepts_iff {f : Filter} {r : Regex} (h : parse? f.pattern.toList = some r)
    (text : String) : f.accepts text = true ↔ r.Matches text.toList := by
  rw [accepts, h, Option.any_some, isMatch_wholeText]

/-- What the pattern of a filter passes over is accepted. -/
theorem Filter.accepts_of_ends {f : Filter} {r : Regex} (hparse : parse? f.pattern.toList = some r)
    (hfree : r.AssertionFree) {c d : Cursor} {w : List Char} (h : r.Ends c d)
    (hw : c.Passes w d) : f.accepts (String.ofList w) = true := by
  rw [accepts_iff hparse, String.toList_ofList]
  exact (hfree.exists_ends_iff hw.rest).mp ⟨d, h, rfl⟩

namespace Rule

/-- What a token may cover of a path. -/
inductive Token.Covers (registry : Registry) : Token → String → Prop where
  /-- A literal covers its text as it stands. -/
  | literal (text : String) : Covers registry (.literal text) text
  /-- A parameter covers what the pattern of its filter matches by itself. -/
  | param {filter name part : String} {spec : Filter} (hspec : registry.find? filter = some spec)
      (haccepts : spec.accepts part = true) : Covers registry (.param filter name) part

/-- What a segment may cover of a path. -/
def Segment.Covers : Segment → String → Prop
  | literal text, part => part = text
  | param _ filter, part => filter.accepts part = true

variable {registry : Registry} {tokens : List Token} {segments : List Segment}

/-- A segment may end wherever a part that it covers ends. -/
theorem Segment.exists_ends_iff {segment : Segment} (hsegment : segment.Readable) {c : Cursor}
    {t : List Char} : (∃ d, segment.Ends c d ∧ d.rest = t) ↔
      ∃ part : String, c.rest = part.toList ++ t ∧ segment.Covers part := by
  -- a part may end anywhere in the path, so the rest of it is kept apart
  cases segment with
  | literal text =>
    constructor
    · rintro ⟨d, ⟨hpasses, -⟩, rfl⟩
      exact ⟨text, hpasses.rest, rfl⟩
    · rintro ⟨part, hc, rfl⟩
      obtain ⟨d, hpasses, hcaptures, hrest⟩ := Cursor.exists_passes hc
      exact ⟨d, ⟨hpasses, hcaptures⟩, hrest⟩
  | param name filter =>
    obtain ⟨-, ⟨r, hparse, hfree⟩, -⟩ := hsegment
    constructor
    · rintro ⟨d, ⟨r', m, hparse', hm, rfl⟩, rfl⟩
      obtain rfl := Option.some.inj (hparse.symm.trans hparse')
      obtain ⟨w, hw⟩ := hm.passes
      -- without assertions, what is around the part makes no difference
      exact ⟨String.ofList w, by rw [String.toList_ofList]; exact hw.rest,
        Filter.accepts_of_ends hparse hfree hm hw⟩
    · rintro ⟨part, hc, hpart⟩
      rw [Segment.Covers, Filter.accepts_iff hparse] at hpart
      obtain ⟨m, hm, hrest⟩ := (hfree.exists_ends_iff hc).mpr hpart
      exact ⟨_, ⟨r, m, hparse, hm, rfl⟩, hrest⟩

/-- Segments may end wherever parts that they cover in turn end. -/
theorem exists_segmentsEnd_iff (hsegments : ∀ s ∈ segments, s.Readable) {c : Cursor}
    {t : List Char} : (∃ d, SegmentsEnd segments c d ∧ d.rest = t) ↔
      ∃ parts, c.rest = (String.join parts).toList ++ t ∧
        List.Forall₂ Segment.Covers segments parts := by
  induction segments generalizing c with
  | nil =>
    constructor
    · rintro ⟨d, rfl, rfl⟩
      exact ⟨[], rfl, .nil⟩
    · rintro ⟨parts, hc, hparts⟩
      cases hparts
      exact ⟨c, rfl, hc⟩
  | cons segment segments ih =>
    rw [List.forall_mem_cons] at hsegments
    constructor
    · rintro ⟨d, ⟨m, hm, hd⟩, hrest⟩
      obtain ⟨part, hpart, hcovers⟩ := (Segment.exists_ends_iff hsegments.1).mp ⟨m, hm, rfl⟩
      obtain ⟨parts, hparts, hall⟩ := (ih hsegments.2).mp ⟨d, hd, hrest⟩
      refine ⟨part :: parts, ?_, .cons hcovers hall⟩
      rw [hpart, hparts, String.join_cons, String.toList_append, List.append_assoc]
    · rintro ⟨parts, hc, hparts⟩
      cases hparts with
      | cons hcovers hall =>
        rw [String.join_cons, String.toList_append, List.append_assoc] at hc
        obtain ⟨m, hm, hrest⟩ := (Segment.exists_ends_iff hsegments.1).mpr ⟨_, hc, hcovers⟩
        obtain ⟨d, hd, ht⟩ := (ih hsegments.2).mpr ⟨_, hrest, hall⟩
        exact ⟨d, ⟨m, hm, hd⟩, ht⟩

theorem Compiles.covers_iff {token : Token} {segment : Segment}
    (h : Compiles registry token segment) (part : String) :
    segment.Covers part ↔ token.Covers registry part := by
  cases h with
  | literal text =>
    constructor
    · rintro rfl
      exact .literal part
    · rintro ⟨⟩
      rfl
  | param hspec =>
    refine ⟨.param hspec, fun h => ?_⟩
    cases h with
    | param hspec' haccepts =>
      obtain rfl := Option.some.inj (hspec.symm.trans hspec')
      exact haccepts

/-- The segments of a compiled rule cover what its tokens cover. -/
theorem forall₂_covers_iff (h : List.Forall₂ (Compiles registry) tokens segments)
    (parts : List String) : List.Forall₂ Segment.Covers segments parts ↔
      List.Forall₂ (Token.Covers registry) tokens parts := by
  induction h generalizing parts with
  | nil => rw [List.forall₂_nil_left_iff, List.forall₂_nil_left_iff]
  | cons hcompiles hothers ih =>
    rw [List.forall₂_cons_left_iff, List.forall₂_cons_left_iff]
    simp only [hcompiles.covers_iff, ih]

/-- The segments of a compiled rule can be read from their sources if the patterns of its filters stand
alone. -/
theorem readable_of_forall₂ (h : List.Forall₂ (Compiles registry) tokens segments)
    (htokens : ∀ filter name, .param filter name ∈ tokens → isName name.toList = true ∧
      ∀ spec, registry.find? filter = some spec → spec.StandsAlone) :
    ∀ s ∈ segments, s.Readable := by
  induction h with
  | nil => exact fun _ hs => absurd hs List.not_mem_nil
  | cons hcompiles hothers ih =>
    refine List.forall_mem_cons.mpr ⟨?_, ih fun filter name hmem =>
      htokens filter name (List.mem_cons_of_mem _ hmem)⟩
    cases hcompiles with
    | literal text => trivial
    | param hspec =>
      obtain ⟨hname, hfilter⟩ := htokens _ _ (List.mem_cons_self ..)
      exact ⟨hname, hfilter _ hspec⟩

end Rule

namespace Route

variable {η : Type} {registry : Registry} {rule : String} {methods : List String} {route : Route η}

/-- A route with parameters compares whole paths with the expression of its rule. -/
theorem Built.matcher_eq (h : Built registry rule methods route) (hdynamic : route.isStatic = false)
    (hsegments : ∀ s ∈ route.compiled.segments, s.Readable) :
    route.matcher = .regex route.compiled.source route.compiled.expression.wholeText := by
  obtain ⟨expression, hmatcher, hread⟩ := h.exists_expression hdynamic
  rw [hmatcher, Rule.read?_anchored hsegments hread]

theorem Built.exists_wholeText (h : Built registry rule methods route)
    (hdynamic : route.isStatic = false)
    (hsegments : ∀ s ∈ route.compiled.segments, s.Readable) :
    ∃ r : Regex, route.matcher = .regex route.compiled.source r.wholeText ∧
      ∀ c d, r.Ends c d ↔ Rule.SegmentsEnd route.compiled.segments c d :=
  ⟨route.compiled.expression, h.matcher_eq hdynamic hsegments,
    fun _ _ => Rule.ends_expression hsegments⟩

/-- No two groups of a route with parameters have the same name, be they those of parameters or within
the patterns of filters. -/
theorem Built.nodup_groupNames (h : Built registry rule methods route)
    (hdynamic : route.isStatic = false)
    (hsegments : ∀ s ∈ route.compiled.segments, s.Readable) :
    (route.compiled.segments.flatMap Rule.Segment.groupNames).Nodup := by
  obtain ⟨expression, -, hread⟩ := h.exists_expression hdynamic
  obtain ⟨hparse, -⟩ := Option.filter_eq_some_iff.mp hread
  have hnodup := nodup_groupNames_of_parse? hparse
  rw [Rule.read?_anchored hsegments hread, groupNames_wholeText] at hnodup
  rwa [← Rule.groupNames_expression]

/-- **The language of a rule.** A route that was built with parameters matches a path exactly if the
path is put together, in the order of the tokens of the rule, from the text of each literal and, for
each parameter, a text that the pattern of its filter matches by itself. -/
theorem matchesPath_iff_covers [Target η] {handler : η} {options : RouteOptions}
    (h : build registry rule methods handler options = .ok route)
    (hdynamic : route.isStatic = false)
    (hfilters : ∀ filter name spec, .param filter name ∈ Rule.tokenize rule →
      registry.find? filter = some spec → spec.StandsAlone) (path : String) :
    route.matchesPath path = true ↔ ∃ parts, String.join parts = path ∧
      List.Forall₂ (Rule.Token.Covers registry) (Rule.tokenize rule) parts := by
  have hbuilt := built h
  have hcompiles := Rule.forall₂_of_compileTokens hbuilt.segments
  have hsegments := Rule.readable_of_forall₂ hcompiles fun filter name hmem =>
    ⟨Rule.isName_of_mem_tokenize hmem, fun spec => hfilters filter name spec hmem⟩
  -- the whole path is passed, from its start to its end
  obtain ⟨r, hmatcher, hends⟩ := hbuilt.exists_wholeText hdynamic hsegments
  rw [matchesPath, hmatcher, isMatch_wholeText, Matches]
  simp only [hends]
  rw [Rule.exists_segmentsEnd_iff hsegments]
  simp only [Rule.forall₂_covers_iff hcompiles, List.append_nil, Cursor.start, String.toList_inj]
  exact exists_congr fun parts => and_congr_left' eq_comm

/-- A filter whose pattern has branches and a group with a flag. -/
def choiceFilter : Filter := { Filter.string with pattern := "a|b(?i:c)" }

/-- A registry with that filter. -/
def choiceRegistry : Registry := Registry.builtin.register "choice" choiceFilter

/-- A rule with characters that mean something in patterns. -/
def choiceRule : String := "/x.<choice:k>(<choice:n>)"

/-- A handler of two parameters. -/
def choiceHandler : Handler := .typed "choose" [.string, .string] fun _ (k, n, ()) => .ok (k ++ n)

/-- A path that a branch of the filter covers twice. -/
theorem matchesPath_choiceRule : choiceFilter.StandsAlone ∧
    ∃ route, build choiceRegistry choiceRule ["GET"] choiceHandler {} = .ok route ∧
      route.isStatic = false ∧ route.matchesPath "/x.bC(a)" = true := by
  have hfilter : choiceFilter.StandsAlone := by decide +kernel
  obtain ⟨route, h, hroute⟩ : ∃ route, build choiceRegistry choiceRule ["GET"] choiceHandler {} =
      .ok route ∧ (!route.isStatic) = true := exists_build_of_any (by decide +kernel)
  have htokens : Rule.tokenize choiceRule = [.literal "/x.", .param "choice" "k", .literal "(",
      .param "choice" "n", .literal ")"] := by cbv
  have hfind : choiceRegistry.find? "choice" = some choiceFilter := Registry.find?_register_self ..
  have hdynamic : route.isStatic = false := Bool.not_eq_true' _ |>.mp hroute
  refine ⟨hfilter, route, h, hdynamic, (matchesPath_iff_covers h hdynamic ?_ _).mpr ?_⟩
  · intro filter name spec hmem hspec
    rw [htokens] at hmem
    obtain rfl : filter = "choice" := by
      simp only [List.mem_cons, reduceCtorEq, Rule.Token.param.injEq, List.not_mem_nil] at hmem
      tauto
    obtain rfl := Option.some.inj (hfind.symm.trans hspec)
    exact hfilter
  -- the second branch of the filter, and the first
  · refine ⟨["/x.", "bC", "(", "a", ")"], by decide, ?_⟩
    rw [htokens]
    have hfirst : choiceFilter.accepts "bC" = true := by decide +kernel
    have hsecond : choiceFilter.accepts "a" = true := by decide +kernel
    exact .cons (.literal _) (.cons (.param hfind hfirst) (.cons (.literal _)
      (.cons (.param hfind hsecond) (.cons (.literal _) .nil))))

end Route

end WebRouting
