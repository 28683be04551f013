import WebRouting.Proofs.Rule.Captures
import WebRouting.Proofs.Rule.Faults

/-! # Matching and decoding

A route gives nothing exactly if it lacks the method or does not match the path. Otherwise the path falls
into parts that the tokens of its rule cover, and each parameter is decoded of its own part: the route
gives the decoded values in order, or the failure of the leftmost parameter that could not be decoded
(`Route.match?_decodes`). The filters may have groups of their own, with names or without. -/

namespace WebRouting

namespace Rule

variable {registry : Registry} {tokens : List Token} {segments : List Segment} {parts : List String}
  {values : List Value} {name rule : String} {source : DecodeError} {last : Cursor}

/-! ## Decoded parts -/

/-- The values that the filters of placeholders decode of the parts of a path, in order. -/
inductive Decodes (registry : Registry) : List Token → List String → List Value → Prop where
  /-- Without tokens there is nothing to decode. -/
  | nil : Decodes registry [] [] []
  /-- The part of a literal is not decoded. -/
  | literal (text part : String) {tokens : List Token} {parts : List String} {values : List Value}
      (others : Decodes registry tokens parts values) :
      Decodes registry (.literal text :: tokens) (part :: parts) values
  /-- The part of a placeholder is decoded by its filter. -/
  | param {filter part : String} (name : String) {spec : Filter} {value : Value}
      {tokens : List Token} {parts : List String} {values : List Value}
      (hspec : registry.find? filter = some spec) (hvalue : spec.decode part = .ok value)
      (others : Decodes registry tokens parts values) :
      Decodes registry (.param filter name :: tokens) (part :: parts) (value :: values)

/-- There is one value for each placeholder. -/
theorem Decodes.length_eq (h : Decodes registry tokens parts values) :
    values.length = (placeholders tokens).length := by
  induction h with
  | nil => rfl
  | literal _ _ _ ih => exact ih
  | param _ _ _ _ ih => exact congrArg Nat.succ ih

/-- The leftmost placeholder whose part cannot be decoded has this name, and its filter this reason. -/
def FirstUndecodable (registry : Registry) (tokens : List Token) (parts : List String)
    (name : String) (source : DecodeError) : Prop :=
  ∃ before filter after partsBefore part partsAfter values spec,
    tokens = before ++ .param filter name :: after ∧ parts = partsBefore ++ part :: partsAfter ∧
      Decodes registry before partsBefore values ∧ registry.find? filter = some spec ∧
      spec.decode part = .error source

theorem FirstUndecodable.literal (h : FirstUndecodable registry tokens parts name source)
    (text part : String) :
    FirstUndecodable registry (.literal text :: tokens) (part :: parts) name source := by
  obtain ⟨before, filter, after, partsBefore, failing, partsAfter, values, spec, rfl, rfl, hbefore,
    hspec, hfailure⟩ := h
  exact ⟨.literal text :: before, filter, after, part :: partsBefore, failing, partsAfter, values,
    spec, rfl, rfl, .literal text part hbefore, hspec, hfailure⟩

theorem FirstUndecodable.param (h : FirstUndecodable registry tokens parts name source)
    {filter part other : String} {spec : Filter} {value : Value}
    (hspec : registry.find? filter = some spec) (hvalue : spec.decode part = .ok value) :
    FirstUndecodable registry (.param filter other :: tokens) (part :: parts) name source := by
  obtain ⟨before, failingFilter, after, partsBefore, failing, partsAfter, values, failingSpec, rfl,
    rfl, hbefore, hfailingSpec, hfailure⟩ := h
  exact ⟨.param filter other :: before, failingFilter, after, part :: partsBefore, failing,
    partsAfter, value :: values, failingSpec, rfl, rfl, .param other hspec hvalue hbefore,
    hfailingSpec, hfailure⟩

/-- What decoding gives of the parts that tokens cover: the values, or the failure of the leftmost
placeholder that cannot be decoded. -/
inductive Outcome (registry : Registry) (rule : String) (tokens : List Token) (parts : List String) :
    Except ResolveError (List Value) → Prop where
  /-- Every part of a placeholder is decoded. -/
  | decoded {values : List Value} (h : Decodes registry tokens parts values) :
      Outcome registry rule tokens parts (.ok values)
  /-- Some part of a placeholder is not. -/
  | failed {name : String} {source : DecodeError}
      (h : FirstUndecodable registry tokens parts name source) :
      Outcome registry rule tokens parts (.error (.badRequest rule name source))

/-- Decoding what has been captured of parameters decodes the parts that they cover. -/
theorem outcome_of_captured (hcompiles : List.Forall₂ (Compiles registry) tokens segments)
    (hparts : List.Forall₂ (Segment.Captured last) segments parts) (rule : String) :
    Outcome registry rule tokens parts
      ((Compiled.mk segments).params.mapM (Route.decodeParam rule last)) := by
  induction hcompiles generalizing parts with
  | nil =>
    cases hparts
    exact .decoded .nil
  | @cons token segment tokens segments hfirst _ ih =>
    cases hparts with
    | @cons _ part _ parts hpart hothers =>
    have hrest := ih hothers
    cases hfirst with
    | literal text =>
      have hparams : (Compiled.mk (.literal text :: segments)).params =
          (Compiled.mk segments).params := rfl
      rw [hparams]
      generalize (Compiled.mk segments).params.mapM (Route.decodeParam rule last) = result at hrest ⊢
      cases hrest with
      | decoded h => exact .decoded (.literal text part h)
      | failed h => exact .failed (h.literal text part)
    | @param filter name spec hspec =>
      have hparams : (Compiled.mk (.param name spec :: segments)).params =
          (name, spec) :: (Compiled.mk segments).params := rfl
      rw [hparams, List.mapM_cons, Route.decodeParam, hpart.2]
      cases hvalue : spec.decode part with
      | error source =>
        exact .failed ⟨[], filter, tokens, [], part, parts, [], spec, rfl, rfl, .nil, hspec, hvalue⟩
      | ok value =>
        generalize (Compiled.mk segments).params.mapM (Route.decodeParam rule last) = result at hrest ⊢
        cases hrest with
        | decoded h => exact .decoded (.param name hspec hvalue h)
        | failed h => exact .failed (h.param hspec hvalue)

/-! ## Captured parts -/

/-- Segments without parameters cover their texts, and nothing has to be captured. -/
theorem captured_literalText (h : (Compiled.mk segments).params = []) (last : Cursor) :
    List.Forall₂ (Segment.Captured last) segments (segments.map Segment.literalText) := by
  induction segments with
  | nil => exact .nil
  | cons segment segments ih =>
    cases segment with
    | literal text => exact .cons rfl (ih h)
    | param name filter => cases h

theorem standsAlone_of_readable (h : ∀ s ∈ segments, s.Readable) :
    ∀ param ∈ (Compiled.mk segments).params, param.2.StandsAlone := by
  intro param hparam
  obtain ⟨segment, hmem, hsegment⟩ := List.mem_filterMap.mp hparam
  cases segment with
  | literal text => cases hsegment
  | param name filter =>
    cases hsegment
    exact (h _ hmem).2

end Rule

namespace Route

variable {η : Type} {registry : Registry} {rule : String} {methods : List String} {route : Route η}

/-- What a built route with parameters finds in a path has captured parts of it that the segments
cover. -/
theorem Built.exists_captured_of_search (h : Built registry rule methods route)
    (hdynamic : route.isStatic = false) (hsegments : ∀ s ∈ route.compiled.segments, s.Readable)
    {path : String} {last : Cursor}
    (hlast : route.compiled.expression.wholeText.search path = some last) :
    ∃ parts, String.join parts = path ∧
      List.Forall₂ (Rule.Segment.Captured last) route.compiled.segments parts := by
  obtain ⟨hends, hrest⟩ := Regex.ends_of_search_wholeText hlast
  obtain ⟨parts, hjoin, hparts⟩ := Rule.exists_captured_of_nodup
    (h.nodup_groupNames hdynamic hsegments) (Rule.standsAlone_of_readable hsegments) ((Rule.ends_expression hsegments).mp hends)
  rw [hrest, List.append_nil] at hjoin
  exact ⟨parts, String.toList_injective hjoin.symm, hparts⟩

/-- A built route that matches a path has captured the parts that its segments cover, and gives what
decoding them gives. -/
theorem Built.exists_captured (h : Built registry rule methods route)
    (hsegments : ∀ s ∈ route.compiled.segments, s.Readable) {path method : String}
    {result : Except ResolveError (List Value)} (hresult : route.match? path method = some result) :
    ∃ last parts, String.join parts = path ∧
      List.Forall₂ (Rule.Segment.Captured last) route.compiled.segments parts ∧
      route.compiled.params.mapM (decodeParam route.rule last) = result := by
  rw [match?] at hresult
  split at hresult
  · cases hresult
  · cases hstatic : route.isStatic with
    | true =>
      obtain ⟨hparams, hmatcher⟩ := h.matcher_of_isStatic hstatic
      rw [hmatcher] at hresult
      obtain ⟨htext, hresult⟩ := (Option.ite_none_right_eq_some ..).mp hresult
      refine ⟨.start [], _, htext, Rule.captured_literalText hparams _, ?_⟩
      rw [hparams]
      exact Option.some.inj hresult
    | false =>
      rw [h.matcher_eq hstatic hsegments] at hresult
      obtain ⟨last, hlast, hdecode⟩ := Option.map_eq_some_iff.mp hresult
      obtain ⟨parts, hjoin, hparts⟩ := h.exists_captured_of_search hstatic hsegments hlast
      exact ⟨last, parts, hjoin, hparts, hdecode⟩

/-- **Matching and decoding.** A built route, whose filters' patterns stand alone, gives nothing for a
request exactly if it lacks the method or does not match the path. Otherwise the path is put together
from parts that the tokens of the rule cover, and the route gives what decoding them gives: one value
for each placeholder in order, or the failure of the leftmost placeholder that cannot be decoded. -/
theorem match?_decodes [Target η] {handler : η} {options : RouteOptions}
    (h : build registry rule methods handler options = .ok route)
    (hfilters : ∀ filter name spec, .param filter name ∈ Rule.tokenize rule →
      registry.find? filter = some spec → spec.StandsAlone) (path method : String) :
    (route.match? path method = none ↔ method ∉ methods ∨ route.matchesPath path = false) ∧
      ∀ result, route.match? path method = some result →
        ∃ parts, String.join parts = path ∧
          List.Forall₂ (Rule.Token.Covers registry) (Rule.tokenize rule) parts ∧
          Rule.Outcome registry rule (Rule.tokenize rule) parts result ∧
          ∀ values, result = .ok values →
            values.length = (Rule.placeholders (Rule.tokenize rule)).length := by
  have hbuilt := built h
  have hcompiles := Rule.forall₂_of_compileTokens hbuilt.segments
  have hsegments := Rule.readable_of_forall₂ hcompiles fun filter name hmem =>
    ⟨Rule.isName_of_mem_tokenize hmem, fun spec => hfilters filter name spec hmem⟩
  constructor
  · rw [← Option.isNone_iff_eq_none, ← Option.not_isSome, isSome_match?, hbuilt.allows,
      Bool.not_eq_true', Bool.and_eq_false_iff, ← Bool.not_eq_true, List.contains_iff_mem]
  · intro result hresult
    obtain ⟨last, parts, hjoin, hcaptured, hdecode⟩ := hbuilt.exists_captured hsegments hresult
    have houtcome := Rule.outcome_of_captured hcompiles hcaptured rule
    have hcovers := (Rule.forall₂_covers_iff hcompiles parts).mp
      (hcaptured.imp fun _ _ => Rule.Segment.Captured.covers)
    rw [hbuilt.rule] at hdecode
    rw [show (Rule.Compiled.mk route.compiled.segments).params = route.compiled.params from rfl,
      hdecode] at houtcome
    refine ⟨parts, hjoin, hcovers, houtcome, ?_⟩
    rintro values rfl
    cases houtcome with
    | decoded hvalues => exact hvalues.length_eq

/-- Integers whose sign is in a group with a name and whose digits are in one without. -/
def signedFilter : Filter := { Filter.int with pattern := "(?P<sign>-)?(\\d+)" }

/-- A registry with that filter. -/
def signedRegistry : Registry := Registry.builtin.register "signed" signedFilter

/-- A rule with that filter before a built-in one. -/
def signedRule : String := "/<signed:n>.<int:m>"

/-- A handler of two parameters. -/
def signedHandler : Handler :=
  .typed "signed" [.int64, .int64] fun _ (n, m, ()) =>
    .ok ((Value.int n).text ++ "." ++ (Value.int m).text)

/-- The sign of the first parameter is not taken for a parameter, and the digits of the second are too
many. -/
theorem match?_decodes_signedRule : signedFilter.StandsAlone ∧
    ∃ route, build signedRegistry signedRule ["GET"] signedHandler {} = .ok route ∧
      ∃ result parts, route.match? "/-5.99999999999999999999" "GET" = some result ∧
        result.toOption = none ∧ String.join parts = "/-5.99999999999999999999" ∧
        Rule.Outcome signedRegistry signedRule (Rule.tokenize signedRule) parts result := by
  have hfilter : signedFilter.StandsAlone := by decide +kernel
  obtain ⟨route, h, hroute⟩ : ∃ route, build signedRegistry signedRule ["GET"] signedHandler {} =
      .ok route ∧ ((route.match? "/-5.99999999999999999999" "GET").any (·.toOption.isNone)) = true :=
    exists_build_of_any (by decide +kernel)
  have htokens : Rule.tokenize signedRule = [.literal "/", .param "signed" "n", .literal ".",
      .param "int" "m"] := by cbv
  have hfind : signedRegistry.find? "signed" = some signedFilter := Registry.find?_register_self ..
  obtain ⟨result, hresult, hfailed⟩ := (Option.any_eq_true ..).mp hroute
  have hfilters : ∀ filter name spec, .param filter name ∈ Rule.tokenize signedRule →
      signedRegistry.find? filter = some spec → spec.StandsAlone := by
    intro filter name spec hmem hspec
    rw [htokens] at hmem
    simp only [List.mem_cons, reduceCtorEq, Rule.Token.param.injEq, List.not_mem_nil, or_false,
      false_or] at hmem
    rcases hmem with ⟨rfl, -⟩ | ⟨rfl, -⟩
    · obtain rfl := Option.some.inj (hfind.symm.trans hspec)
      exact hfilter
    · rw [signedRegistry, Registry.find?_register_of_ne _ _ (by decide),
        Registry.find?_builtin] at hspec
      obtain rfl := Option.some.inj hspec
      exact (Filter.Fits.int 0).segmental.standsAlone
  obtain ⟨-, hdecodes⟩ := match?_decodes h hfilters "/-5.99999999999999999999" "GET"
  obtain ⟨parts, hjoin, -, houtcome, -⟩ := hdecodes result hresult
  exact ⟨hfilter, route, h, result, parts, hresult, Option.isNone_iff_eq_none.mp hfailed, hjoin,
    houtcome⟩

end Route

end WebRouting
