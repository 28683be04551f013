import WebRouting.Handler.Basic
import WebRouting.Proofs.Regex.Closing
import WebRouting.Proofs.Rule.Language

/-! # Filters with broken patterns

The pattern of a rule is put together as text before it is read, so a filter whose pattern means nothing
by itself is noticed only if the whole text means nothing. That is so wherever the last filter of a rule
is broken and does not close the group of its parameter itself (`Route.build_of_broken`). Both
conditions are needed: a pattern may close the group and open another one
(`Route.build_splitRule`), and what one filter leaves open a later one may close. -/

namespace WebRouting

open Regex

namespace Filter

/-- The pattern of the filter means nothing by itself, or it is nested too deep or too large. -/
def Broken (f : Filter) : Prop := read? f.pattern.toList = none

/-- The pattern of the filter closes the group that it stands in: what is before one of its closing
parentheses means something by itself. -/
def ClosesGroup (f : Filter) : Prop :=
  ∃ before after, f.pattern.toList = before ++ ')' :: after ∧ (parse? before).isSome

end Filter

namespace Rule

variable {registry : Registry} {tokens : List Token} {segments before after : List Segment}
  {name : String} {filter : Filter}

/-- The parameters of a compiled rule have the names of groups. -/
theorem isName_of_mem_compile {rule : String} (h : compile registry rule = .ok ⟨segments⟩)
    (hmem : .param name filter ∈ segments) : isName name.toList = true := by
  obtain ⟨token, htoken, hcompiles⟩ :=
    exists_compiles_of_mem (forall₂_of_compileTokens (compileTokens_of_compile h)) hmem
  cases hcompiles
  exact isName_of_mem_tokenize htoken

/-- Behind the last parameter the only parenthesis is the one that closes the group for the rule. -/
theorem closers_source_of_literals (h : ∀ s ∈ segments, s.param? = none) :
    closers (segments.flatMap (·.source.toList) ++ ")$".toList) = 1 := by
  induction segments with
  | nil => rfl
  | cons segment segments ih =>
    rw [List.forall_mem_cons] at h
    cases segment with
    | literal text =>
      rw [List.flatMap_cons, List.append_assoc, Segment.source, String.toList_ofList,
        closers_escape_append]
      exact ih h.2
    | param name filter => cases h.1

/-- A parameter is read as a group if the pattern of its filter does not close the group itself. Then the
pattern can be read by itself. -/
theorem exists_run?_param {r out : Reading} {t : List Char} (hname : isName name.toList = true)
    (hcloses : ¬filter.ClosesGroup) (hflags : r.flags = {})
    (hrun : r.run? ((Segment.param name filter).source.toList ++ t) = some out)
    (hclosed : out.outer = []) (hcount : closers t ≤ r.outer.length) :
    ∃ fin s, ({} : Reading).run? filter.pattern.toList = some fin ∧ fin.outer = [] ∧
      r.Adds [.group (some name) fin.level.value] s ∧ fin.level.depth + 1 ∈ s.level.depths ∧
      s.run? t = some out := by
  have hsource : (Segment.param name filter).source.toList ++ t =
      "(?P<".toList ++ (name.toList ++ '>' :: (filter.pattern.toList ++ ')' :: t)) := by
    simp [Segment.source]
  rw [hsource] at hrun
  obtain ⟨inner, hinner, hlevel, houter, hrun⟩ := run?_groupStart hname hflags hrun
  have hwithin : Reading.Within inner.outer {} inner := ⟨hinner, hlevel, rfl⟩
  have hcount' : closers t < inner.outer.length := by
    rw [houter, List.length_cons]
    omega
  obtain hcloses' | ⟨fin, s, hfin, hfin', hs, hrun⟩ :=
    Reading.closes_or_run?_of_closed hwithin hrun hclosed hcount'
  · exact absurd hcloses' hcloses
  · -- the parenthesis behind the pattern closes the group
    have hsouter : s.outer = ⟨r.level, {}, true, some name⟩ :: r.outer := by
      rw [hs.outer, hfin', houter, String.ofList_toList, List.nil_append]
    rw [Reading.run?_of_next? (next?_cons s.flags (by decide) (by decide) t) rfl
      (Nat.lt_succ_self _), Reading.take?_groupEnd hsouter, Option.bind_some, hs.level] at hrun
    refine ⟨fin, _, hfin, hfin', ?_, ?_, hrun⟩
    · exact .single hflags.symm rfl rfl
    · exact List.mem_cons_self

/-- The pattern of a rule means nothing if that of its last filter means nothing and does not close the
group of its parameter. -/
theorem read?_anchored_of_broken (hbefore : ∀ s ∈ before, s.Readable)
    (hname : isName name.toList = true) (hafter : ∀ s ∈ after, s.param? = none)
    (hbroken : filter.Broken) (hcloses : ¬filter.ClosesGroup) :
    read? (Matcher.anchored (Compiled.mk (before ++ .param name filter :: after)).source).toList =
      none := by
  cases hread : read?
      (Matcher.anchored (Compiled.mk (before ++ .param name filter :: after)).source).toList with
  | none => rfl
  | some expression =>
    exfalso
    obtain ⟨out, hrun, hfinish, hnesting, hsize⟩ := read?_eq_some_iff.mp hread
    obtain ⟨hclosed, -⟩ := Reading.finish?_eq_some_iff.mp hfinish
    have hsources : (before ++ .param name filter :: after).flatMap (·.source.toList) ++ ")$".toList =
        before.flatMap (·.source.toList) ++ ((Segment.param name filter).source.toList ++
          (after.flatMap (·.source.toList) ++ ")$".toList)) := by
      simp
    rw [toList_anchored_source, hsources, run?_anchoredStart] at hrun
    obtain ⟨opened, hopened, hrun⟩ := run?_sources hbefore rfl hrun
    -- one parenthesis is behind the parameter, and it closes the group for the rule
    have hcount : closers (after.flatMap (·.source.toList) ++ ")$".toList) ≤ opened.outer.length := by
      rw [closers_source_of_literals hafter, hopened.outer]
      exact Nat.le_refl _
    obtain ⟨fin, s, hfin, hfin', hs, hdepth, hrun⟩ :=
      exists_run?_param hname hcloses hopened.flags hrun hclosed hcount
    have hliterals : ∀ s ∈ after, s.Readable := by
      intro segment hsegment
      cases segment with
      | literal text => trivial
      | param other spec => cases hafter _ hsegment
    obtain ⟨last, hlast, hrun⟩ := run?_sources hliterals (hs.flags.trans hopened.flags) hrun
    obtain ⟨out', hout', hfinish', hlt⟩ := run?_anchoredEnd ((hopened.trans hs).trans hlast)
    obtain rfl := Option.some.inj (hrun.symm.trans hout')
    obtain rfl := Option.some.inj (hfinish.symm.trans hfinish')
    -- what the filter means is part of what the rule means, and so it is within the limits too
    have hmem : .group (some name) fin.level.value ∈ before.flatMap Segment.items ++
        [.group (some name) fin.level.value] ++ after.flatMap Segment.items := by simp
    have hwhole := Nat.le_trans (size_le_size_seqReversed (List.mem_reverse.mpr hmem))
      (size_le_size_wholeText _)
    rw [size] at hwhole
    have hnested := Level.le_depth_of_mem (hlast.depths hdepth)
    have hpart : read? filter.pattern.toList = some fin.level.value :=
      read?_eq_some_iff.mpr ⟨fin, hfin, Reading.finish?_eq_some_iff.mpr ⟨hfin', rfl⟩, by omega,
        by omega⟩
    rw [Filter.Broken, hpart] at hbroken
    cases hbroken

end Rule

namespace Route

variable {η : Type} {registry : Registry} {rule : String} {methods : List String}

/-- **Broken patterns.** With valid methods, a rule that compiles and a handler of the right arity, no
route is made if the filter of the last parameter is broken, does not close its own group and stands
behind filters that stand alone. -/
theorem build_of_broken [Target η] {handler : η} {options : RouteOptions} {set : MethodSet}
    {before after : List Rule.Segment} {name : String} {filter : Filter}
    (hmethods : MethodSet.ofList methods = .ok set)
    (hcompile : Rule.compile registry rule = .ok ⟨before ++ .param name filter :: after⟩)
    (harity : options.checking = true →
      (Rule.Compiled.mk (before ++ .param name filter :: after)).params.length =
        Target.arity handler)
    (hbefore : ∀ other spec, .param other spec ∈ before → spec.StandsAlone)
    (hafter : ∀ s ∈ after, s.param? = none)
    (hbroken : filter.Broken) (hcloses : ¬filter.ClosesGroup) :
    build registry rule methods handler options = .error (.invalidPattern rule) := by
  have hname : Rule.isName name.toList = true :=
    Rule.isName_of_mem_compile hcompile (List.mem_append_right _ List.mem_cons_self)
  have hreadable : ∀ s ∈ before, s.Readable := by
    intro s hs
    cases s with
    | literal text => trivial
    | param other spec =>
      have hother := Rule.isName_of_mem_compile hcompile (List.mem_append_left _ hs)
      exact ⟨hother, hbefore other spec hs⟩
  have hread := Rule.read?_anchored_of_broken hreadable hname hafter hbroken hcloses
  have hmatcher : Matcher.ofCompiled? ⟨before ++ .param name filter :: after⟩ = none := by
    rw [Matcher.ofCompiled?, hread]
    simp [Rule.Compiled.isStatic, Rule.Compiled.params, Rule.Segment.param?]
  have hcheck : ¬(options.checking = true ∧
      (Rule.Compiled.mk (before ++ .param name filter :: after)).params.length ≠
        Target.arity handler) := fun h => h.2 (harity h.1)
  rw [build, hmethods, hcompile]
  show (if _ then _ else _) = _
  rw [if_neg hcheck, hmatcher]

/-- A filter whose pattern leaves a bracket open. -/
def openFilter : Filter := { Filter.string with pattern := "[a-z" }

/-- A registry with that filter. -/
def openRegistry : Registry := Registry.builtin.register "open" openFilter

/-- A handler of two parameters. -/
def openHandler : Handler :=
  .typed "open" [.int64, .string] fun _ (n, v, ()) => .ok ((Value.int n).text ++ v)

/-- The open bracket would take in the parenthesis behind it and all that follows. -/
theorem build_openRule : openFilter.Broken ∧ ¬openFilter.ClosesGroup ∧
    build openRegistry "/<int:n>/<open:v>.html" ["GET"] openHandler {} =
      .error (.invalidPattern "/<int:n>/<open:v>.html") := by
  have hbroken : openFilter.Broken := by
    have hread : (read? openFilter.pattern.toList).isNone = true := by decide +kernel
    exact Option.isNone_iff_eq_none.mp hread
  have hcloses : ¬openFilter.ClosesGroup := by
    rintro ⟨before, after, hpattern, -⟩
    have hparen : ')' ∉ openFilter.pattern.toList := by decide
    exact hparen (hpattern ▸ by simp)
  have hint : Filter.int.StandsAlone := by decide +kernel
  have htokens : Rule.tokenize "/<int:n>/<open:v>.html" =
      [.literal "/", .param "int" "n", .literal "/", .param "open" "v", .literal ".html"] := by
    cbv
  have hfindInt : openRegistry.find? "int" = some .int := by
    rw [openRegistry, Registry.find?_register_of_ne _ _ (by decide), Registry.builtin,
      Registry.find?_register_of_ne _ _ (by decide)]
    exact Registry.find?_register_self ..
  have hfindOpen : openRegistry.find? "open" = some openFilter := Registry.find?_register_self ..
  have hcompile : Rule.compile openRegistry "/<int:n>/<open:v>.html" =
      .ok ⟨[.literal "/", .param "n" .int, .literal "/"] ++
        .param "v" openFilter :: [.literal ".html"]⟩ := by
    rw [Rule.compile, htokens]
    simp only [Rule.compileTokens, hfindInt, hfindOpen]
    rfl
  refine ⟨hbroken, hcloses, build_of_broken rfl hcompile (fun _ => rfl) ?_ ?_ hbroken hcloses⟩
  · intro other spec hmem
    obtain rfl : spec = .int := by simp_all
    exact hint
  · simp [Rule.Segment.param?]

/-- A filter whose pattern closes the group that it stands in and opens another one. -/
def splitFilter : Filter := { Filter.string with pattern := "a)(?:b" }

/-- A registry with that filter. -/
def splitRegistry : Registry := Registry.builtin.register "split" splitFilter

/-- A handler of one parameter. -/
def splitHandler : Handler := .typed "split" [.string] fun _ (v, ()) => .ok v

/-- A broken filter that closes its own group does get into a route, which matches what is on both sides
of the parenthesis. -/
theorem build_splitRule : splitFilter.Broken ∧
    ∃ route, build splitRegistry "/x/<split:v>" ["GET"] splitHandler {} = .ok route ∧
      route.matchesPath "/x/ab" = true := by
  have hbroken : splitFilter.Broken := by
    have hread : (read? splitFilter.pattern.toList).isNone = true := by decide +kernel
    exact Option.isNone_iff_eq_none.mp hread
  exact ⟨hbroken, exists_build_of_any (by decide +kernel)⟩

/-- A bracket that one filter leaves open may be closed by a later one, which takes the place of all that
stands between them. -/
example : ((build ((Registry.builtin.register "open" openFilter).register "shut"
    { Filter.string with pattern := "]" }) "/<open:v>-<shut:w>" ["GET"] openHandler {}).toOption.any
      (·.matchesPath "/x")) = true := by decide +kernel

end Route

end WebRouting
