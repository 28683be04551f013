import WebRouting.Proofs.Rule.Captures
import WebRouting.Proofs.Rule.Separated

/-! # Reverse routing

Values put into the segments of a route give a path, and the route reads the values from it
(`Route.match?_renderSegments`). This holds for routes with built-in filters whenever a slash stands
between any two consecutive parameters: then the path falls into parts in one way only, and what was
captured can only be what was written. -/

namespace WebRouting

namespace Rule

variable {registry : Registry} {segments : List Segment} {values : List Value}
  {pieces : List String} {last : Cursor}

/-! ## Rendering -/

/-- The pieces of a path that segments give with values that fit their parameters. -/
inductive Renders : List Segment → List Value → List String → Prop where
  /-- No segments give no pieces. -/
  | nil : Renders [] [] []
  /-- A literal gives its text. -/
  | literal (text : String) {segments : List Segment} {values : List Value} {pieces : List String}
      (others : Renders segments values pieces) :
      Renders (.literal text :: segments) values (text :: pieces)
  /-- A parameter gives what its filter writes for the next value. -/
  | param (name : String) {filter : Filter} {value : Value} {segments : List Segment}
      {values : List Value} {pieces : List String} (hfits : filter.Fits value)
      (others : Renders segments values pieces) :
      Renders (.param name filter :: segments) (value :: values) (filter.encode value :: pieces)

/-- Segments give pieces with any values that fit their parameters. -/
theorem exists_renders (h : List.Forall₂ (fun param value => param.2.Fits value)
    (Compiled.mk segments).params values) : ∃ pieces, Renders segments values pieces := by
  induction segments generalizing values with
  | nil =>
    cases h
    exact ⟨[], .nil⟩
  | cons segment segments ih =>
    cases segment with
    | literal text =>
      obtain ⟨pieces, hpieces⟩ := ih h
      exact ⟨text :: pieces, .literal text hpieces⟩
    | param name filter =>
      cases h with
      | cons hfits hothers =>
        obtain ⟨pieces, hpieces⟩ := ih hothers
        exact ⟨_ :: pieces, .param name hfits hpieces⟩

/-- Rendering the segments gives their pieces, and none is missing. -/
theorem Renders.renderSegments_eq (h : Renders segments values pieces) :
    renderSegments values segments = pieces.map some := by
  induction h with
  | nil => rfl
  | literal text others ih => rw [renderSegments, ih]; rfl
  | param name hfits others ih => rw [renderSegments, List.tail_cons, ih]; rfl

/-- The segments cover their pieces. -/
theorem Renders.covers (h : Renders segments values pieces) :
    List.Forall₂ Segment.Covers segments pieces := by
  induction h with
  | nil => exact .nil
  | literal text others ih => exact .cons rfl ih
  | param name hfits others ih => exact .cons hfits.accepts_encode ih

/-- Where the pieces have been captured, decoding the parameters gives the values. -/
theorem Renders.mapM_decodeParam (h : Renders segments values pieces)
    (hpieces : List.Forall₂ (Segment.Captured last) segments pieces) (rule : String) :
    (Compiled.mk segments).params.mapM (Route.decodeParam rule last) = .ok values := by
  induction h with
  | nil => rfl
  | literal text others ih =>
    cases hpieces with
    | cons _ hothers => exact ih hothers
  | @param name filter value segments values pieces hfits others ih =>
    cases hpieces with
    | cons hfirst hothers =>
      have hdecode : Route.decodeParam rule last (name, filter) = .ok value := by
        rw [Route.decodeParam, hfirst.2, hfits.decode_encode]
        rfl
      have hparams : (Compiled.mk (.param name filter :: segments)).params =
          (name, filter) :: (Compiled.mk segments).params := rfl
      rw [hparams, List.mapM_cons, hdecode, ih hothers]
      rfl

/-! ## Filters -/

/-- Filters that values fit are filters for segments. -/
theorem segmental_of_fits {params : List (String × Filter)}
    (h : List.Forall₂ (fun param value => param.2.Fits value) params values) :
    ∀ param ∈ params, param.2.Segmental := by
  induction h with
  | nil => exact fun _ hmem => absurd hmem List.not_mem_nil
  | cons hfits hothers ih => exact List.forall_mem_cons.mpr ⟨hfits.segmental, ih⟩

/-- The filters that the tokens of a rule name are those of the parameters of the compiled rule. -/
theorem segmental_of_mem {tokens : List Token}
    (hcompiles : List.Forall₂ (Compiles registry) tokens segments)
    (hparams : ∀ param ∈ (Compiled.mk segments).params, param.2.Segmental) {filter name : String}
    {spec : Filter} (hmem : .param filter name ∈ tokens) (hspec : registry.find? filter = some spec) :
    spec.Segmental := by
  induction hcompiles with
  | nil => exact absurd hmem List.not_mem_nil
  | cons hfirst hothers ih =>
    cases hfirst with
    | literal text => exact ih hparams ((List.mem_cons.mp hmem).resolve_left Token.noConfusion)
    | param hspec' =>
      obtain ⟨hfilter, hparams⟩ := List.forall_mem_cons.mp hparams
      rcases List.mem_cons.mp hmem with heq | hmem
      · cases heq
        obtain rfl := Option.some.inj (hspec.symm.trans hspec')
        exact hfilter
      · exact ih hparams hmem

end Rule

namespace Route

variable {η : Type} {registry : Registry} {rule : String} {methods : List String} {route : Route η}

/-- **Reverse routing.** Values that fit the parameters of a built route, whose filters are built-in
ones and whose parameters are separated by slashes, give the pieces of a path that the route matches
under each of its methods, with exactly these values. -/
theorem match?_renderSegments [Target η] {handler : η} {options : RouteOptions}
    {values : List Value} (h : build registry rule methods handler options = .ok route)
    (hdynamic : route.isStatic = false)
    (hseparated : Rule.separated (Rule.tokenize rule) = true)
    (hvalues : List.Forall₂ (fun param value => param.2.Fits value) route.compiled.params values) :
    ∃ pieces, Rule.renderSegments values route.compiled.segments = pieces.map some ∧
      ∀ method, route.allows method = true →
        route.match? (String.join pieces) method = some (.ok values) := by
  have hbuilt := built h
  have hcompiles := Rule.forall₂_of_compileTokens hbuilt.segments
  have hparams := Rule.segmental_of_fits hvalues
  have hsegments := Rule.readable_of_forall₂ hcompiles fun filter name hmem =>
    ⟨Rule.isName_of_mem_tokenize hmem, fun spec hspec =>
      (Rule.segmental_of_mem hcompiles hparams hmem hspec).standsAlone⟩
  have hslash : Rule.TakesNoSlash registry (Rule.tokenize rule) :=
    fun filter name spec hmem hspec part =>
      (Rule.segmental_of_mem hcompiles hparams hmem hspec).not_mem_of_accepts
  obtain ⟨r, hmatcher, hends⟩ := hbuilt.exists_wholeText hdynamic hsegments
  obtain ⟨pieces, hpieces⟩ := Rule.exists_renders hvalues
  refine ⟨pieces, hpieces.renderSegments_eq, fun method hmethod => ?_⟩
  -- the path is matched, since its pieces are covered
  have hmatch : r.wholeText.isMatch (String.join pieces) = true := by
    obtain ⟨d, hd, hrest⟩ := (Rule.exists_segmentsEnd_iff hsegments
      (c := .start (String.join pieces).toList) (t := [])).mpr
      ⟨pieces, (List.append_nil _).symm, hpieces.covers⟩
    exact (Regex.isMatch_wholeText r _).mpr ⟨d, (hends _ d).mpr hd, hrest⟩
  obtain ⟨last, hlast⟩ := Option.isSome_iff_exists.mp hmatch
  -- what was captured are parts of the same path, so they are the pieces
  obtain ⟨hfound, hrest⟩ := Regex.ends_of_search_wholeText hlast
  obtain ⟨parts, hjoin, hcaptured⟩ := Rule.exists_captured_parts
    (Rule.nodup_of_compileTokens hbuilt.segments).1 hparams ((hends _ last).mp hfound)
  have hparts : parts = pieces := by
    rw [hrest, List.append_nil] at hjoin
    exact Rule.eq_of_join_eq hslash hseparated
      ((Rule.forall₂_covers_iff hcompiles parts).mp
        (hcaptured.imp fun _ _ => Rule.Segment.Captured.covers))
      ((Rule.forall₂_covers_iff hcompiles pieces).mp hpieces.covers)
      (String.toList_injective hjoin.symm)
  subst hparts
  have hdecode := hpieces.mapM_decodeParam hcaptured route.rule
  simp only [match?, hmethod, hmatcher, hlast, Option.map_some, Bool.not_true, Bool.false_eq_true,
    if_false]
  exact congrArg some hdecode

/-- A rule whose literals have characters that mean something in patterns. -/
def priceRule : String := "/a\\b.(<default:s>-\n/-<int:n>/[<float:x>"

/-- A handler of three parameters. -/
def priceHandler : Handler :=
  .typed "price" [.string, .int64, .float] fun _ (s, n, x, ()) =>
    .ok (s ++ (Value.int n).text ++ (Value.float x).text)

/-- Text that looks like the rule, the least integer and negative zero. -/
def priceValues : List Value := [.string "x)\n-5", .int Int64.minValue, .float (.zero true)]

/-- The pieces of the path are those of the rule with the values between them. -/
theorem match?_renderSegments_priceRule :
    ∃ route, build Registry.builtin priceRule ["GET"] priceHandler {} = .ok route ∧
      route.isStatic = false ∧ Rule.separated (Rule.tokenize priceRule) = true ∧
      List.Forall₂ (fun param value => param.2.Fits value) route.compiled.params priceValues ∧
      route.match? "/a\\b.(x)\n-5-\n/--9223372036854775808/[-0.0" "GET" = some (.ok priceValues) := by
  have htokens : Rule.tokenize priceRule = [.literal "/a\\b.(", .param "default" "s",
      .literal "-\n/-", .param "int" "n", .literal "/[", .param "float" "x"] := by cbv
  obtain ⟨route, h, hroute⟩ : ∃ route, build Registry.builtin priceRule ["GET"] priceHandler {} =
      .ok route ∧ (!route.isStatic && route.allows "GET") = true :=
    exists_build_of_any (by decide +kernel)
  obtain ⟨hdynamic, hmethod⟩ : route.isStatic = false ∧ route.allows "GET" = true := by
    simpa using hroute
  have hsegments : route.compiled.segments = [.literal "/a\\b.(", .param "s" .string,
      .literal "-\n/-", .param "n" .int, .literal "/[", .param "x" .float] := by
    have hcompile := (built h).segments
    rw [htokens] at hcompile
    simpa [Rule.compileTokens, Registry.find?_builtin] using hcompile.symm
  have hseparated : Rule.separated (Rule.tokenize priceRule) = true := by
    rw [htokens]
    decide
  have hvalues : List.Forall₂ (fun param value => param.2.Fits value) route.compiled.params
      priceValues := by
    rw [Rule.Compiled.params, hsegments]
    exact .cons (.string (by decide) (by decide)) (.cons (.int _) (.cons (.float rfl) .nil))
  obtain ⟨pieces, hpieces, hmatch⟩ := match?_renderSegments h hdynamic hseparated hvalues
  have hrendered : Rule.renderSegments priceValues route.compiled.segments =
      ["/a\\b.(", "x)\n-5", "-\n/-", "-9223372036854775808", "/[", "-0.0"].map some := by
    rw [hsegments]
    decide +kernel
  obtain rfl := (List.map_injective_iff.mpr (Option.some_injective String))
    (hpieces.symm.trans hrendered)
  exact ⟨route, h, hdynamic, hseparated, hvalues, hmatch "GET" hmethod⟩

end Route

end WebRouting
