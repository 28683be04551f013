import WebRouting.Proofs.Regex.Embedding
import WebRouting.Proofs.Route.Faults
import WebRouting.Proofs.Rule.Captures

/-! # Assembled patterns

The pattern of a rule is put together as text from escaped literals and the patterns of filters. If each
filter's pattern means something by itself and sets no flags outside groups of its own, and no two
groups have the same name, the text as a whole means the expression of the rule, whatever the literals
are and however many parameters there are (`Rule.parse?_anchored`). So with filters that have no named
groups, the built-in ones among them, the pattern is no ground to refuse a route, unless it is nested
too deep or too large (`Route.build_of_composes`). -/

namespace WebRouting

open Regex

namespace Filter

/-- The pattern of the filter means something by itself, and sets no flags unless for a group of its
own. -/
structure Embeds (f : Filter) : Prop where
  /-- The pattern means an expression. -/
  parses : (parse? f.pattern.toList).isSome = true
  /-- The pattern sets no flags for what follows it. -/
  flags : SetsNoFlags f.pattern.toList

/-- The pattern of the filter fits together with those of others: besides, none of its groups has a
name. -/
structure Composes (f : Filter) : Prop extends f.Embeds where
  /-- No group has a name. -/
  unnamed : f.expression.unnamed = true

instance (f : Filter) : Decidable f.Composes :=
  decidable_of_iff ((parse? f.pattern.toList).isSome = true ∧ SetsNoFlags f.pattern.toList ∧
      f.expression.unnamed = true)
    ⟨fun h => ⟨⟨h.1, h.2.1⟩, h.2.2⟩, fun h => ⟨h.parses, h.flags, h.unnamed⟩⟩

theorem Embeds.parse?_eq {f : Filter} (h : f.Embeds) :
    parse? f.pattern.toList = some f.expression := by
  obtain ⟨r, hr⟩ := Option.isSome_iff_exists.mp h.parses
  rw [hr, expression_eq hr]

/-- Filters for segments fit together with others. -/
theorem Segmental.composes {f : Filter} (h : f.Segmental) : f.Composes where
  parses := by rw [h.standsAlone.parse?_eq]; rfl
  flags := h.standsAlone.flags
  unnamed := (h.expression _ h.standsAlone.parse?_eq).2

end Filter

namespace Rule

variable {r : Reading} {segment : Segment} {segments : List Segment}

/-! ## Segments -/

/-- The source of the segment can be read wherever the names of its groups are not in use: a parameter
has the name of a group, and the pattern of its filter can be read inside of it. -/
def Segment.Embeds : Segment → Prop
  | literal _ => True
  | param name filter => isName name.toList = true ∧ filter.Embeds

/-- The source of a segment can be read, as the items of the segment, if no name of its groups is in
use. -/
theorem exists_run?_source (hsegment : segment.Embeds) (hflags : r.flags = {})
    (hnodup : (segment.groupNames ++ r.names).Nodup) (t : List Char) :
    ∃ s, r.Adds segment.items s ∧ s.names.Perm (segment.groupNames ++ r.names) ∧
      r.run? (segment.source.toList ++ t) = s.run? t := by
  cases segment with
  | literal text =>
    obtain ⟨s, hs, hnames, hrun⟩ := Reading.run?_escape hflags text.toList t
    refine ⟨s, hs, .of_eq hnames, ?_⟩
    rw [Segment.source, String.toList_ofList]
    exact hrun
  | param name filter =>
    obtain ⟨hname, hfilter⟩ := hsegment
    rw [Segment.groupNames, List.cons_append, List.nodup_cons, List.mem_append, not_or] at hnodup
    obtain ⟨⟨hself, hnew⟩, hnodup⟩ := hnodup
    -- the name of the parameter is new, and so are those in the pattern of its filter after it
    let opened : Reading := { r.openGroup r.flags true (some name) with names := name :: r.names }
    have htake : r.take? (.capture (some name)) = some opened := if_neg hnew
    have hdisjoint : filter.expression.groupNames.Disjoint opened.names :=
      List.disjoint_cons_right.mpr ⟨hself, List.disjoint_of_nodup_append hnodup⟩
    obtain ⟨s, depth, hsflags, hlevel, houter, hnames, hrun⟩ := Reading.run?_group_of_disjoint
      (r := opened) hfilter.parse?_eq hfilter.flags hflags rfl rfl hdisjoint t
    rw [OpenGroup.close, if_pos rfl] at hlevel
    refine ⟨s, .single hsflags hlevel houter, hnames.trans List.perm_middle, ?_⟩
    have hstart := run?_groupStart_eq hname hflags (filter.pattern.toList ++ ')' :: t)
    rw [String.ofList_toList, htake, Option.bind_some, hrun] at hstart
    rw [← hstart, Segment.source]
    simp

/-- The sources of segments can be read, as the items of all of them, if the names of their groups differ
and none of them is in use. -/
theorem exists_run?_sources (hsegments : ∀ s ∈ segments, s.Embeds) (hflags : r.flags = {})
    (hnodup : (segments.flatMap Segment.groupNames ++ r.names).Nodup) (t : List Char) :
    ∃ s, r.Adds (segments.flatMap Segment.items) s ∧
      r.run? (segments.flatMap (·.source.toList) ++ t) = s.run? t := by
  induction segments generalizing r with
  | nil => exact ⟨r, .refl r, rfl⟩
  | cons segment segments ih =>
    rw [List.forall_mem_cons] at hsegments
    rw [List.flatMap_cons, List.append_assoc] at hnodup
    -- the names of the first segment are in use when the others are read
    have hperm := (List.perm_append_comm_assoc segment.groupNames
      (segments.flatMap Segment.groupNames) r.names)
    obtain ⟨hothers, hfirst, -⟩ := List.nodup_append.mp (hperm.nodup_iff.mp hnodup)
    obtain ⟨m, hm, hnames, hrun⟩ := exists_run?_source hsegments.1 hflags hfirst
      (segments.flatMap (·.source.toList) ++ t)
    have hnodup' : (segments.flatMap Segment.groupNames ++ m.names).Nodup :=
      ((hnames.append_left _).nodup_iff).mpr (hperm.nodup_iff.mp hnodup)
    obtain ⟨s, hs, hrun'⟩ := ih hsegments.2 (hm.flags.trans hflags) hnodup'
    refine ⟨s, hm.trans hs, ?_⟩
    rw [List.flatMap_cons, List.append_assoc, hrun, hrun']

/-- **Assembled patterns.** The pattern of a rule whose segments can be read means the expression of the
rule, if no two groups have the same name. -/
theorem parse?_anchored (hsegments : ∀ s ∈ segments, s.Embeds)
    (hnodup : (segments.flatMap Segment.groupNames).Nodup) :
    parse? (Matcher.anchored (Compiled.mk segments).source).toList =
      some (Compiled.mk segments).expression.wholeText := by
  have hnames : (segments.flatMap Segment.groupNames ++ anchoredStart.names).Nodup := by
    rwa [show anchoredStart.names = [] from rfl, List.append_nil]
  obtain ⟨s, hs, hrun⟩ := exists_run?_sources hsegments rfl hnames ")$".toList
  obtain ⟨out, hout, hfinish, -⟩ := run?_anchoredEnd hs
  rw [parse?, toList_anchored_source, run?_anchoredStart, hrun, hout]
  exact hfinish

/-- The pattern of a rule that compiles means the expression of the rule if its filters fit together. -/
theorem parse?_anchored_of_compile {registry : Registry} {rule : String} {compiled : Compiled}
    (h : compile registry rule = .ok compiled)
    (hfilters : ∀ filter name spec, .param filter name ∈ tokenize rule →
      registry.find? filter = some spec → spec.Composes) :
    parse? (Matcher.anchored compiled.source).toList = some compiled.expression.wholeText := by
  have htokens := compileTokens_of_compile h
  have hcompiles := forall₂_of_compileTokens htokens
  have hparams := forall_params_of_forall₂ hcompiles hfilters
  -- the groups are those of the parameters, and these have different names
  have hnodup : (compiled.segments.flatMap Segment.groupNames).Nodup := by
    rw [groupNames_of_unnamed fun param hparam => (hparams param hparam).unnamed]
    exact (nodup_of_compileTokens htokens).1
  refine parse?_anchored (fun s hs => ?_) hnodup
  obtain ⟨token, htoken, hsegment⟩ := exists_compiles_of_mem hcompiles hs
  cases hsegment with
  | literal text => trivial
  | param hspec =>
    exact ⟨isName_of_mem_tokenize htoken, (hfilters _ _ _ htoken hspec).toEmbeds⟩

end Rule

namespace Route

variable {η : Type} {registry : Registry} {rule : String} {methods : List String}

/-- **Assembled patterns are expressions.** The pattern of any rule that compiles means the expression of
the rule if each of its filters is a built-in one or fits together with others. So a route with such a
rule is never refused for its pattern, unless that is nested too deep or the expression is too large. -/
theorem build_of_composes [Target η] {handler : η} {options : RouteOptions}
    (hfilters : ∀ filter name spec, .param filter name ∈ Rule.tokenize rule →
      registry.find? filter = some spec → spec.IsBuiltin ∨ spec.Composes) :
    (∀ compiled, Rule.compile registry rule = .ok compiled →
      parse? (Matcher.anchored compiled.source).toList = some compiled.expression.wholeText) ∧
    ∀ other, build registry rule methods handler options = .error (.invalidPattern other) →
      ∃ compiled, Rule.compile registry rule = .ok compiled ∧
        (nestingLimit < nesting (Matcher.anchored compiled.source).toList ∨
          sizeLimit < compiled.expression.wholeText.size) := by
  have hcomposes : ∀ filter name spec, .param filter name ∈ Rule.tokenize rule →
      registry.find? filter = some spec → spec.Composes :=
    fun filter name spec hmem hspec =>
      (hfilters filter name spec hmem hspec).elim (·.segmental.composes) id
  refine ⟨fun compiled h => Rule.parse?_anchored_of_compile h hcomposes, fun other h => ?_⟩
  cases firstFault_of_build h with
  | pattern hmethods hrule harity hpattern =>
    obtain ⟨set, segments, -, hcompile, -, hmatcher⟩ := exists_set_segments hmethods hrule
    refine ⟨⟨segments⟩, hcompile, ?_⟩
    by_contra! hlimits
    -- a pattern within the limits makes a matcher
    have hread : read? (Matcher.anchored (Rule.Compiled.mk segments).source).toList =
        some (Rule.Compiled.mk segments).expression.wholeText := by
      rw [read?, Rule.parse?_anchored_of_compile hcompile hcomposes, Option.filter_some,
        if_pos (by simpa using hlimits)]
    refine hpattern (hmatcher.mp ?_)
    rw [Matcher.ofCompiled?, hread]
    split <;> rfl

/-- A filter whose pattern has branches, assertions and a group with a flag. -/
def edgeFilter : Filter := { Filter.string with pattern := "^a|\\bx\x7b2\x7d(?i:y)$" }

/-- A registry with that filter. -/
def edgeRegistry : Registry := Registry.builtin.register "edge" edgeFilter

/-- A rule whose literal texts would mean something else if they were not escaped. -/
def edgeRule : String := "/[a.\x7b2\x7d(?<edge:k>\x7b3,\x7d*<int:n>)\\"

/-- What the rule is compiled to. -/
def edgeCompiled : Rule.Compiled :=
  ⟨[.literal "/[a.\x7b2\x7d(?", .param "k" edgeFilter, .literal "\x7b3,\x7d*", .param "n" .int,
    .literal ")\\"]⟩

/-- A handler of two parameters. -/
def edgeHandler : Handler :=
  .typed "edge" [.string, .int64] fun _ (k, n, ()) => .ok (k ++ (Value.int n).text)

/-- What follows the placeholders looks like repetitions and a closing parenthesis. -/
theorem build_of_composes_edgeRule : edgeFilter.Composes ∧
    Rule.compile edgeRegistry edgeRule = .ok edgeCompiled ∧
    parse? (Matcher.anchored edgeCompiled.source).toList = some edgeCompiled.expression.wholeText ∧
    ∀ other, build edgeRegistry edgeRule ["GET"] edgeHandler {} ≠ .error (.invalidPattern other) := by
  have hedge : edgeFilter.Composes := by decide +kernel
  have htokens : Rule.tokenize edgeRule = [.literal "/[a.\x7b2\x7d(?", .param "edge" "k",
      .literal "\x7b3,\x7d*", .param "int" "n", .literal ")\\"] := by cbv
  have hfindInt : edgeRegistry.find? "int" = some .int := by
    rw [edgeRegistry, Registry.find?_register_of_ne _ _ (by decide), Registry.find?_builtin]
    rfl
  have hfindEdge : edgeRegistry.find? "edge" = some edgeFilter := Registry.find?_register_self ..
  have hcompile : Rule.compile edgeRegistry edgeRule = .ok edgeCompiled := by
    rw [Rule.compile, htokens]
    simp only [Rule.compileTokens, hfindInt, hfindEdge]
    rfl
  have hfilters : ∀ filter name spec, .param filter name ∈ Rule.tokenize edgeRule →
      edgeRegistry.find? filter = some spec → spec.IsBuiltin ∨ spec.Composes := by
    intro filter name spec hmem hspec
    rw [htokens] at hmem
    simp only [List.mem_cons, reduceCtorEq, Rule.Token.param.injEq, List.not_mem_nil, or_false,
      false_or] at hmem
    obtain ⟨rfl, -⟩ | ⟨rfl, -⟩ := hmem
    · exact .inr (Option.some.inj (hfindEdge.symm.trans hspec) ▸ hedge)
    · exact .inl (.inr (.inl (Option.some.inj (hspec.symm.trans hfindInt))))
  obtain ⟨hparse, hbuild⟩ :=
    @build_of_composes Handler edgeRegistry edgeRule ["GET"] _ edgeHandler {} hfilters
  refine ⟨hedge, hcompile, hparse _ hcompile, fun other h => ?_⟩
  obtain ⟨compiled, hcompiled, hlimits⟩ := hbuild other h
  obtain rfl := Except.ok.inj (hcompile.symm.trans hcompiled)
  have hflat : nesting (Matcher.anchored edgeCompiled.source).toList ≤ nestingLimit := by
    decide +kernel
  have hsmall : edgeCompiled.expression.wholeText.size ≤ sizeLimit := by decide +kernel
  exact hlimits.elim (Nat.not_lt_of_le hflat) (Nat.not_lt_of_le hsmall)

end Route

end WebRouting
