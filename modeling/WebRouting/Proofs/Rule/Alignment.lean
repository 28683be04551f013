import WebRouting.Handler.Basic
import WebRouting.Proofs.Route.Build
import WebRouting.Proofs.Rule.Compile
import WebRouting.Proofs.Rule.Reading

/-! # Compiled rules in step with their tokens

A compiled rule has a segment for each token of the rule and a parameter for each token that is one
(`Compiled.Aligned`), and a route without parameters matches the text of its literals and nothing else
(`compile_aligned`). This text is the rule itself if no placeholder is spelled in the rule, and is
shorter if one is, be it escaped or not (`literalText_tokenize_eq_iff`). -/

namespace WebRouting.Rule

variable {registry : Registry} {rule : String} {tokens : List Token} {segments : List Segment}
  {c : Compiled}

/-! ## Text of literals -/

/-- The text of a literal, and none for a parameter. -/
def Token.literalText : Token → String
  | .literal text => text
  | .param .. => ""

/-- The text of the literals among tokens, one after another. -/
def literalText (tokens : List Token) : String := String.join (tokens.map Token.literalText)

@[simp] theorem literalText_nil : literalText [] = "" := rfl

@[simp] theorem literalText_literal (text : String) (tokens : List Token) :
    literalText (.literal text :: tokens) = text ++ literalText tokens := by
  rw [literalText, List.map_cons, String.join_cons]
  rfl

@[simp] theorem literalText_param (filter name : String) (tokens : List Token) :
    literalText (.param filter name :: tokens) = literalText tokens := by
  rw [literalText, List.map_cons, String.join_cons]
  exact String.empty_append

theorem literalText_append (tokens others : List Token) :
    literalText (tokens ++ others) = literalText tokens ++ literalText others := by
  induction tokens with
  | nil => exact String.empty_append.symm
  | cons token tokens ih =>
    cases token with
    | literal text =>
      rw [List.cons_append, literalText_literal, literalText_literal, ih, String.append_assoc]
    | param filter name => rw [List.cons_append, literalText_param, literalText_param, ih]

/-- Putting tokens together keeps their text. -/
theorem literalText_merge (tokens : List Token) : literalText (merge tokens) = literalText tokens := by
  induction tokens with
  | nil => rfl
  | cons token tokens ih =>
    cases token with
    | param filter name =>
      rw [merge, literalText_param, literalText_param, ih]
    | literal text =>
      rw [merge, literalText_literal, ← ih]
      split
      · next more others hmerged =>
        rw [hmerged, literalText_literal, literalText_literal, String.append_assoc]
      · split
        · next htext => rw [htext, String.empty_append]
        · rw [literalText_literal]

/-- A gap is what is left of it without the backslashes at its end, and these. -/
theorem length_gap (gap : List Char) :
    (Text.dropEndWhile isBackslash gap).length + runLength gap = gap.length := by
  have hlength := congrArg List.length (backslashes_runLength gap)
  rw [backslashes, List.length_append, List.length_replicate, List.length_reverse,
    List.length_reverse] at hlength
  omega

/-- The text of a part is shorter than its spelling, whether the placeholder is a parameter or text. -/
theorem Part.length_literalText_lt (part : Part) :
    (literalText part.tokens).toList.length < part.gap.length + part.placeholder.spell.length := by
  have hgap := length_gap part.gap
  have hspell := part.placeholder.length_spell_pos
  rw [Part.tokens, literalText_literal, String.toList_append, String.toList_ofList,
    List.length_append, List.length_append, List.length_replicate]
  split
  · rw [Placeholder.token, literalText_param, literalText_nil]
    simp only [String.toList_empty, List.length_nil]
    omega
  · -- an odd run is not empty, so halving it takes a backslash away
    next hodd =>
    rw [literalText_literal, literalText_nil, String.append_empty, String.toList_ofList]
    omega

/-- The text of parts is shorter than their spelling, by a character for each of them at least. -/
theorem length_literalText_tokensOf_le (parts : List Part) (last : List Char) :
    (literalText (tokensOf parts last)).toList.length + parts.length ≤
      (spellParts last parts).length := by
  induction parts with
  | nil => simp [tokensOf, spellParts]
  | cons part parts ih =>
    have hpart := part.length_literalText_lt
    rw [tokensOf, List.flatMap_cons, List.append_assoc, ← tokensOf, literalText_append,
      String.toList_append, List.length_append, spellParts, List.length_append, List.length_append,
      List.length_cons]
    omega

/-- The text of a rule is the rule itself exactly if no placeholder is spelled in it. -/
theorem literalText_tokenize_eq_iff (rule : String) :
    literalText (tokenize rule) = rule ↔ ∀ before p after, ¬Occurs rule.toList before p after := by
  have htext {parts : List Part} {last : List Char} (h : Splits rule.toList parts last) :
      literalText (tokenize rule) = literalText (tokensOf parts last) := by
    rw [tokenize, scan_of_splits h, literalText_merge]
    exact String.empty_append
  constructor
  · intro h before p after hoccurs
    obtain ⟨parts, last, hsplits⟩ := exists_splits rule.toList
    obtain ⟨first, gap, rest, rfl, -⟩ := (hsplits.occurs_iff before p after).mp hoccurs
    have hlength := length_literalText_tokensOf_le (first ++ ⟨gap, p⟩ :: rest) last
    rw [← htext hsplits, h, ← hsplits.spells, List.length_append, List.length_cons] at hlength
    omega
  · intro h
    rw [htext (.nil h), tokensOf, List.flatMap_nil, List.nil_append, literalText_literal,
      literalText_nil, String.append_empty, String.ofList_toList]

/-! ## Alignment -/

/-- A parameter of a compiled rule has the name of a parameter of the rule and the filter that it names. -/
def IsParam (registry : Registry) (declared : String × String) (param : String × Filter) : Prop :=
  param.1 = declared.2 ∧ registry.find? declared.1 = some param.2

/-- A compiled rule in step with its tokens. -/
structure Compiled.Aligned (registry : Registry) (rule : String) (c : Compiled) : Prop where
  /-- There is one segment for each token, in order. -/
  segments : List.Forall₂ (Compiles registry) (tokenize rule) c.segments
  /-- There is one parameter for each token that is one, in order. -/
  params : List.Forall₂ (IsParam registry) (parameters (tokenize rule)) c.params
  /-- No two parameters have the same name. -/
  nodup : c.paramNames.Nodup
  /-- The rule is static if all tokens are literals. -/
  isStatic_iff : c.isStatic = true ↔ ∀ token ∈ tokenize rule, token.isLiteral = true
  /-- The pattern of a static rule is the text of its literals. -/
  pattern_eq (hstatic : c.isStatic = true) : c.pattern = literalText (tokenize rule)
  /-- The pattern of a static rule is the rule itself if no placeholder is spelled in the rule. -/
  pattern_eq_rule_iff (hstatic : c.isStatic = true) :
    c.pattern = rule ↔ ∀ before p after, ¬Occurs rule.toList before p after

/-- The parameters of a compiled rule are those of its tokens. -/
theorem forall₂_params (h : List.Forall₂ (Compiles registry) tokens segments) :
    List.Forall₂ (IsParam registry) (parameters tokens) (Compiled.mk segments).params := by
  induction h with
  | nil => exact .nil
  | cons hfirst _ ih =>
    cases hfirst with
    | literal text => exact ih
    | param hspec => exact .cons ⟨rfl, hspec⟩ ih

/-- The text of a compiled rule is that of its tokens. -/
theorem text_eq_literalText (h : List.Forall₂ (Compiles registry) tokens segments) :
    (Compiled.mk segments).text = literalText tokens := by
  have hsegments : segments.map Segment.literalText = tokens.map Token.literalText := by
    induction h with
    | nil => rfl
    | cons hfirst _ ih =>
      rw [List.map_cons, List.map_cons, ih]
      cases hfirst <;> rfl
  rw [Compiled.text, hsegments, literalText]

theorem parameters_eq_nil_iff : parameters tokens = [] ↔ ∀ token ∈ tokens, token.isLiteral = true := by
  have hparam (token : Token) : token.param? = none ↔ token.isLiteral = true := by
    cases token <;> simp [Token.param?, Token.isLiteral]
  simp only [parameters, List.filterMap_eq_nil_iff, hparam]

/-- A rule that compiles is compiled in step with its tokens. -/
theorem aligned_of_compile (h : compile registry rule = .ok c) : c.Aligned registry rule := by
  have htokens := compileTokens_of_compile h
  have hsegments := forall₂_of_compileTokens htokens
  have hparams := forall₂_params hsegments
  have htext (hstatic : c.isStatic = true) : c.pattern = literalText (tokenize rule) := by
    rw [Compiled.pattern, if_pos hstatic]
    exact text_eq_literalText hsegments
  refine ⟨hsegments, hparams, (nodup_of_compileTokens htokens).1, ?_, htext, fun hstatic => ?_⟩
  · rw [← parameters_eq_nil_iff, Compiled.isStatic, List.isEmpty_iff, ← List.length_eq_zero_iff,
      ← List.length_eq_zero_iff]
    exact Eq.congr_left hparams.length_eq.symm |>.trans Iff.rfl
  · rw [htext hstatic]
    exact literalText_tokenize_eq_iff rule

/-- A route whose rule has no parameters compares paths with the text of the rule. -/
theorem matcher_of_compile {η : Type} {methods : List String} {route : Route η}
    (hroute : Route.Built registry rule methods route) (h : compile registry rule = .ok c)
    (hstatic : c.isStatic = true) : route.matcher = .exact c.pattern := by
  have hsegments : route.compiled.segments = c.segments :=
    Except.ok.inj (hroute.segments.symm.trans (compileTokens_of_compile h))
  have hmatcher := hroute.matcher
  rw [show route.compiled = c from congrArg Compiled.mk hsegments, Matcher.ofCompiled?,
    if_pos hstatic] at hmatcher
  rw [Compiled.pattern, if_pos hstatic]
  exact (Option.some.inj hmatcher).symm

/-- **Compiled rules in step with their tokens.** A rule that compiles has a segment for each token and a
parameter, with the filter that it names, for each token that is one. Without parameters its pattern is
the text of its literals, which is the rule itself if no placeholder is spelled in it, and a route with
the rule matches this text and no other path. -/
theorem compile_aligned (h : compile registry rule = .ok c) :
    c.Aligned registry rule ∧
      ∀ (η : Type) [Target η] (methods : List String) (handler : η) (options : RouteOptions)
        (route : Route η), Route.build registry rule methods handler options = .ok route →
          c.isStatic = true → route.isStatic = true ∧ route.pattern = c.pattern ∧
            (∀ path, route.matchesPath path = true ↔ path = c.pattern) ∧
            ∀ path method, route.match? path method =
              if route.allows method = true ∧ path = c.pattern then some (.ok []) else none := by
  refine ⟨aligned_of_compile h, fun η _ methods handler options route hroute hstatic => ?_⟩
  have hmatcher := matcher_of_compile (Route.built hroute) h hstatic
  refine ⟨?_, ?_, fun path => ?_, fun path method => ?_⟩
  · rw [Route.isStatic, Route.staticKey?, hmatcher]
    rfl
  · rw [Route.pattern, hmatcher, Matcher.pattern]
  · rw [Route.matchesPath, hmatcher]
    simp [eq_comm]
  · rw [Route.match?, hmatcher]
    cases route.allows method <;> simp [eq_comm]

/-- A rule in which a placeholder is spelled and escaped. -/
def escapedRule : String := "/raw/\\\\\\<int:x>"

/-- A handler without parameters. -/
def escapedHandler : Handler := .typed "raw" [] fun _ _ => .ok "raw"

/-- The placeholder and one of the backslashes are text, and the only path that is matched. -/
theorem compile_aligned_escapedRule :
    compile .builtin escapedRule = .ok ⟨[.literal "/raw/\\<int:x>"]⟩ ∧
      (Compiled.mk [.literal "/raw/\\<int:x>"]).Aligned .builtin escapedRule ∧
      ∃ route, Route.build .builtin escapedRule ["GET"] escapedHandler {} = .ok route ∧
        ∀ path, route.matchesPath path = true ↔ path = "/raw/\\<int:x>" := by
  have htokens : tokenize escapedRule = [.literal "/raw/\\<int:x>"] := by cbv
  have hcompile : compile .builtin escapedRule = .ok ⟨[.literal "/raw/\\<int:x>"]⟩ := by
    rw [compile, htokens]
    rfl
  obtain ⟨route, hroute, -⟩ : ∃ route,
      Route.build .builtin escapedRule ["GET"] escapedHandler {} = .ok route ∧ true = true :=
    Route.exists_build_of_any (by decide +kernel)
  obtain ⟨haligned, hroutes⟩ := compile_aligned hcompile
  obtain ⟨-, -, hmatches, -⟩ := hroutes Handler _ _ _ route hroute rfl
  exact ⟨hcompile, haligned, route, hroute, hmatches⟩

end WebRouting.Rule
