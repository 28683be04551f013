import WebRouting.Proofs.Rule.Captures

/-! # Routes with one parameter at the end

A rule that is a text and then one parameter, whose filter is one for segments of paths. Such a route has
a path exactly if the path is the text and then a part that the filter accepts
(`LastParam.matchesPath_iff`), and what it gives for the path is what the filter decodes of the part
(`LastParam.match?_eq`). -/

namespace WebRouting.Route

open Regex

variable {η : Type} {route : Route η} {root name path part method : String} {filter : Filter}

/-- The rule of the route is a text before one parameter with a filter for segments. -/
structure LastParam (route : Route η) (root name : String) (filter : Filter) : Prop where
  /-- The segments are those of the text and the parameter. -/
  segments : route.compiled.segments = [.literal root, .param name filter]
  /-- The segments can be read from their sources. -/
  readable : ∀ s ∈ route.compiled.segments, s.Readable
  /-- Whole paths are compared with the segments. -/
  expression : ∃ r : Regex, route.matcher = .regex route.compiled.source r.wholeText ∧
    ∀ c d, r.Ends c d ↔ Rule.SegmentsEnd route.compiled.segments c d
  /-- The filter is one for segments. -/
  segmental : filter.Segmental

/-- A route that was built of such a rule. -/
theorem Built.lastParam {registry : Registry} {rule kind : String} {methods : List String}
    (h : Built registry rule methods route)
    (htokens : Rule.tokenize rule = [.literal root, .param kind name])
    (hfind : registry.find? kind = some filter) (hfilter : filter.Segmental) :
    LastParam route root name filter := by
  have hmem : .param kind name ∈ Rule.tokenize rule := by
    rw [htokens]
    exact List.mem_cons_of_mem _ List.mem_cons_self
  have hname : Rule.isName name.toList = true := Rule.isName_of_mem_tokenize hmem
  have hsegments : route.compiled.segments = [.literal root, .param name filter] := by
    have hcompile := h.segments
    rw [htokens] at hcompile
    simpa [Rule.compileTokens, hfind] using hcompile.symm
  have hreadable : ∀ s ∈ route.compiled.segments, s.Readable := by
    rw [hsegments]
    intro s hs
    rcases List.mem_pair.mp hs with rfl | rfl
    · trivial
    · exact ⟨hname, hfilter.standsAlone⟩
  have hparam : route.compiled.isStatic = false := by
    rw [Rule.Compiled.isStatic, Rule.Compiled.params, hsegments]
    rfl
  have hdynamic : route.isStatic = false := by
    have hmatcher := h.matcher
    rw [Matcher.ofCompiled?, if_neg (Bool.eq_false_iff.mp hparam)] at hmatcher
    obtain ⟨expression, -, hregex⟩ := Option.map_eq_some_iff.mp hmatcher
    rw [isStatic, staticKey?, ← hregex]
    rfl
  exact ⟨hsegments, hreadable, h.exists_wholeText hdynamic hreadable, hfilter⟩

theorem join_pair (first second : String) : String.join [first, second] = first ++ second := by
  rw [String.join_cons, String.join_cons, String.join_nil, String.append_empty]

theorem forall₂_covers_iff {parts : List String} :
    List.Forall₂ Rule.Segment.Covers [.literal root, .param name filter] parts ↔
      ∃ part, parts = [root, part] ∧ filter.accepts part = true := by
  constructor
  · rintro (_ | ⟨hroot, _ | ⟨hpart, _ | _⟩⟩)
    cases hroot
    exact ⟨_, rfl, hpart⟩
  · rintro ⟨part, rfl, haccepts⟩
    exact .cons rfl (.cons haccepts .nil)

namespace LastParam

theorem params_eq (h : LastParam route root name filter) : route.compiled.params = [(name, filter)] := by
  rw [Rule.Compiled.params, h.segments]
  rfl

/-- The route has a parameter. -/
theorem isStatic_eq (h : LastParam route root name filter) : route.isStatic = false := by
  obtain ⟨r, hmatcher, -⟩ := h.expression
  rw [isStatic, staticKey?, hmatcher]
  rfl

/-- The route has the paths that are its text and then a part that the filter accepts. -/
theorem matchesPath_iff (h : LastParam route root name filter) : route.matchesPath path = true ↔
    ∃ part, path = root ++ part ∧ filter.accepts part = true := by
  obtain ⟨r, hmatcher, hends⟩ := h.expression
  rw [matchesPath, hmatcher, isMatch_wholeText, Matches]
  simp only [hends]
  rw [Rule.exists_segmentsEnd_iff h.readable, h.segments]
  constructor
  · rintro ⟨parts, hpath, hparts⟩
    obtain ⟨part, rfl, haccepts⟩ := forall₂_covers_iff.mp hparts
    refine ⟨part, ?_, haccepts⟩
    rw [List.append_nil, Cursor.start, String.toList_inj, join_pair] at hpath
    exact hpath
  · rintro ⟨part, rfl, haccepts⟩
    refine ⟨[root, part], ?_, forall₂_covers_iff.mpr ⟨part, rfl, haccepts⟩⟩
    rw [List.append_nil, join_pair]
    rfl

/-- What the route gives for a path is what the filter decodes of its last part. -/
theorem match?_eq (h : LastParam route root name filter) (hmethod : route.allows method = true)
    (haccepts : filter.accepts part = true) : route.match? (root ++ part) method =
      some (((filter.decode part).mapError (.badRequest route.rule name)).map fun v => [v]) := by
  obtain ⟨r, hmatcher, hends⟩ := h.expression
  have hpath : route.matchesPath (root ++ part) = true := h.matchesPath_iff.mpr ⟨part, rfl, haccepts⟩
  rw [matchesPath, hmatcher] at hpath
  obtain ⟨last, hlast⟩ := Option.isSome_iff_exists.mp hpath
  obtain ⟨hfound, hrest⟩ := ends_of_search_wholeText hlast
  have hnames : (Rule.Compiled.mk route.compiled.segments).paramNames.Nodup := by
    show (route.compiled.params.map Prod.fst).Nodup
    rw [h.params_eq]
    exact List.nodup_singleton name
  have hfilters : ∀ param ∈ (Rule.Compiled.mk route.compiled.segments).params,
      param.2.Segmental := by
    show ∀ param ∈ route.compiled.params, param.2.Segmental
    rw [h.params_eq]
    exact List.forall_mem_singleton.mpr h.segmental
  obtain ⟨parts, hjoin, hparts⟩ :=
    Rule.exists_captured_parts hnames hfilters ((hends _ last).mp hfound)
  -- the text of the parameter is all that is behind the text of the rule
  have hcaptured : last.captured name = part := by
    rw [h.segments] at hparts
    obtain _ | ⟨hroot, _ | ⟨⟨-, hpart⟩, _ | _⟩⟩ := hparts
    cases hroot
    rw [hrest, List.append_nil, Cursor.start, String.toList_inj, join_pair, ← hpart] at hjoin
    have hchars : root.toList ++ part.toList = root.toList ++ (last.captured name).toList := by
      rw [← String.toList_append, hjoin, String.toList_append]
    exact (String.toList_injective (List.append_cancel_left hchars)).symm
  have hdecode : route.compiled.params.mapM (decodeParam route.rule last) =
      ((filter.decode part).mapError (.badRequest route.rule name)).map fun v => [v] := by
    rw [h.params_eq, List.mapM_cons, decodeParam, hcaptured]
    cases filter.decode part <;> rfl
  simp only [match?, hmethod, hmatcher, hlast, Option.map_some, Bool.not_true, Bool.false_eq_true,
    if_false, hdecode]

end LastParam

end WebRouting.Route
