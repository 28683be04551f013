import WebRouting.Proofs.Route.Decoding
import WebRouting.Proofs.Rule.Greedy

/-! # Greedy routes

A route whose filters are built-in ones decodes one of the ways in which a path falls into parts that its
rule covers: the one that takes the longest part wherever there is a choice, read from the left
(`Route.match?_longestFirst`). -/

namespace WebRouting.Route

variable {η : Type} {registry : Registry} {rule : String} {methods : List String} {route : Route η}

/-- **Greedy capture.** A path that a built route with built-in filters matches falls into parts that the
tokens of the rule cover, and the route decodes these parts under each of its methods. Against any other
such parts of the path, they have the longer part at the first placeholder where the two differ. -/
theorem match?_longestFirst [Target η] {handler : η} {options : RouteOptions}
    (h : build registry rule methods handler options = .ok route)
    (hdynamic : route.isStatic = false)
    (hfilters : ∀ filter name spec, .param filter name ∈ Rule.tokenize rule →
      registry.find? filter = some spec → spec.IsBuiltin)
    {path : String} (hpath : route.matchesPath path = true) :
    ∃ parts, String.join parts = path ∧
      List.Forall₂ (Rule.Token.Covers registry) (Rule.tokenize rule) parts ∧
      (∀ method ∈ methods, ∃ result, route.match? path method = some result ∧
        Rule.Outcome registry rule (Rule.tokenize rule) parts result) ∧
      ∀ others, String.join others = path →
        List.Forall₂ (Rule.Token.Covers registry) (Rule.tokenize rule) others → others ≠ parts →
        Rule.LongerFirst (Rule.tokenize rule) parts others := by
  have hbuilt := built h
  have hcompiles := Rule.forall₂_of_compileTokens hbuilt.segments
  have hsegments := Rule.readable_of_forall₂ hcompiles fun filter name hmem =>
    ⟨Rule.isName_of_mem_tokenize hmem, fun spec hspec =>
      (hfilters filter name spec hmem hspec).segmental.standsAlone⟩
  have hbuiltin := Rule.forall_params_of_forall₂ hcompiles hfilters
  have hmatcher := hbuilt.matcher_eq hdynamic hsegments
  rw [matchesPath, hmatcher] at hpath
  obtain ⟨last, hlast⟩ := Option.isSome_iff_exists.mp hpath
  -- the parts are those that have been captured at the end
  obtain ⟨parts, hjoin, hparts⟩ := hbuilt.exists_captured_of_search hdynamic hsegments hlast
  refine ⟨parts, hjoin, (Rule.forall₂_covers_iff hcompiles parts).mp
    (hparts.imp fun _ _ => Rule.Segment.Captured.covers), fun method hmethod => ?_, ?_⟩
  · have hallows : route.allows method = true := by
      rw [hbuilt.allows, List.contains_iff_mem]
      exact hmethod
    refine ⟨_, ?_, Rule.outcome_of_captured hcompiles hparts rule⟩
    simp only [match?, hallows, hmatcher, hlast, Option.map_some, Bool.not_true, Bool.false_eq_true,
      if_false, hbuilt.rule]
  · intro others hothersJoin hothers hne
    have hcovers := (Rule.forall₂_covers_iff hcompiles others).mpr hothers
    exact Rule.longerFirst_of_search hcompiles hsegments
      (hbuilt.nodup_groupNames hdynamic hsegments)
      (fun param hparam => (hbuiltin param hparam).longestFirst) hlast hjoin hparts hothersJoin
      hcovers hne

/-- A rule of an integer and a text without anything between them. -/
def numberedRule : String := "<int:n><s>"

/-- A handler of two parameters. -/
def numberedHandler : Handler :=
  .typed "numbered" [.int64, .string] fun _ (n, s, ()) => .ok ((Value.int n).text ++ s)

/-- All digits go to the integer, although the text could have some of them. -/
theorem match?_longestFirst_numberedRule :
    ∃ route, build Registry.builtin numberedRule ["GET"] numberedHandler {} = .ok route ∧
      route.isStatic = false ∧ route.matchesPath "-12a" = true ∧
      ∃ parts, String.join parts = "-12a" ∧ parts ≠ ["-1", "2a"] ∧
        Rule.LongerFirst (Rule.tokenize numberedRule) parts ["-1", "2a"] := by
  have htokens : Rule.tokenize numberedRule = [.param "int" "n", .param "default" "s"] := by cbv
  obtain ⟨route, h, hboth⟩ : ∃ route, build Registry.builtin numberedRule ["GET"] numberedHandler {} =
      .ok route ∧ (!route.isStatic && route.matchesPath "-12a" &&
        (route.match? "-12a" "GET").any fun result =>
          result.toOption.any (·.head?.any (·.text = "-12"))) = true :=
    exists_build_of_any (by decide +kernel)
  have hint : Registry.builtin.find? "int" = some .int := Registry.find?_builtin "int"
  have hdefault : Registry.builtin.find? "default" = some .string := Registry.find?_builtin "default"
  rw [Bool.and_eq_true, Bool.and_eq_true, Bool.not_eq_true'] at hboth
  obtain ⟨⟨hdynamic, hpath⟩, hresult⟩ := hboth
  have hfilters : ∀ filter name spec, .param filter name ∈ Rule.tokenize numberedRule →
      Registry.builtin.find? filter = some spec → spec.IsBuiltin := by
    intro filter name spec hmem hspec
    rw [htokens] at hmem
    simp only [List.mem_cons, Rule.Token.param.injEq, List.not_mem_nil, or_false] at hmem
    rcases hmem with ⟨rfl, -⟩ | ⟨rfl, -⟩
    · exact .inr (.inl (Option.some.inj (hspec.symm.trans hint)))
    · exact .inl (Option.some.inj (hspec.symm.trans hdefault))
  obtain ⟨parts, hjoin, -, hdecodes, hlonger⟩ := match?_longestFirst h hdynamic hfilters hpath
  obtain ⟨result, hmatch, houtcome⟩ := hdecodes "GET" (List.mem_singleton_self _)
  -- the first value that is decoded is not that of the shorter part
  have hne : parts ≠ ["-1", "2a"] := by
    rintro rfl
    rw [hmatch] at hresult
    rw [htokens] at houtcome
    cases houtcome with
    | failed hfailure => cases hresult
    | decoded hvalues =>
      cases hvalues with
      | param _ hspec hvalue _ =>
        obtain rfl := Option.some.inj (hspec.symm.trans hint)
        have hshorter : Filter.int.decode "-1" = .ok (.int (-1)) := rfl
        obtain rfl := Except.ok.inj (hvalue.symm.trans hshorter)
        have htext : (Value.int (-1)).text = "-12" := of_decide_eq_true hresult
        exact absurd htext (by decide +kernel)
  refine ⟨route, h, hdynamic, hpath, parts, hjoin, hne, hlonger _ (by decide) ?_ hne.symm⟩
  rw [htokens]
  have hfirst : Filter.int.accepts "-1" = true := by decide +kernel
  have hsecond : Filter.string.accepts "2a" = true := by decide +kernel
  exact .cons (.param hint hfirst) (.cons (.param hdefault hsecond) .nil)

end WebRouting.Route
