import WebRouting.Proofs.Rule.Compile

/-! # Faults of rules

A rule compiles exactly if every placeholder names a registered filter and no two have the same name
(`exists_compile_iff`). Otherwise the error is that of the first placeholder at fault, read from the
left, and a name that has been used counts before a filter that is missing
(`compile_eq_error_iff`). -/

namespace WebRouting.Rule

variable {registry : Registry} {names : List String} {tokens before after : List Token}
  {e : CompileError}

/-! ## Placeholders -/

/-- The names of the placeholders among tokens, in order. -/
def placeholders : List Token → List String
  | [] => []
  | .literal _ :: tokens => placeholders tokens
  | .param _ name :: tokens => name :: placeholders tokens

theorem placeholders_eq_map (tokens : List Token) :
    placeholders tokens = (parameters tokens).map Prod.snd := by
  induction tokens with
  | nil => rfl
  | cons token tokens ih =>
    cases token with
    | literal text => exact ih
    | param filter name => exact congrArg (name :: ·) ih

theorem placeholders_append (before after : List Token) :
    placeholders (before ++ after) = placeholders before ++ placeholders after := by
  simp only [placeholders_eq_map, parameters_append, List.map_append]

/-- The parameters of a compiled rule are its placeholders. -/
theorem placeholders_of_forall₂ {segments : List Segment}
    (h : List.Forall₂ (Compiles registry) tokens segments) :
    (Compiled.mk segments).paramNames = placeholders tokens := by
  induction h with
  | nil => rfl
  | cons hfirst _ ih =>
    cases hfirst with
    | literal text => exact ih
    | param hspec => exact congrArg (_ :: ·) ih

/-- No placeholder among the tokens is at fault: their names differ, and their filters are
registered. -/
structure Sound (registry : Registry) (tokens : List Token) : Prop where
  /-- No two placeholders have the same name. -/
  nodup : (placeholders tokens).Nodup
  /-- Each placeholder names a filter of the registry. -/
  registered : ∀ filter name, .param filter name ∈ tokens → registry.contains filter = true

/-- What is wrong with a token behind others. Of two faults the name is the first. -/
inductive Token.Fault (registry : Registry) (before : List Token) : Token → CompileError → Prop where
  /-- The name has been used before. -/
  | duplicateParam {filter name : String} (hname : name ∈ placeholders before) :
      Fault registry before (.param filter name) (.duplicateParam name)
  /-- The name is new, but the filter is not registered. -/
  | unknownFilter {filter name : String} (hname : name ∉ placeholders before)
      (hfilter : registry.contains filter = false) :
      Fault registry before (.param filter name) (.unknownFilter filter)

/-- The fault of the first placeholder at fault. -/
def FirstFault (registry : Registry) (tokens : List Token) (e : CompileError) : Prop :=
  ∃ before token after, tokens = before ++ token :: after ∧ Sound registry before ∧
    token.Fault registry before e

theorem Sound.literal (h : Sound registry before) (text : String) :
    Sound registry (before ++ [.literal text]) where
  nodup := by
    rw [placeholders_append]
    simpa [placeholders] using h.nodup
  registered filter name hmem := by
    rw [List.mem_append, List.mem_singleton] at hmem
    exact h.registered filter name (hmem.resolve_right Token.noConfusion)

theorem Sound.param (h : Sound registry before) {filter name : String}
    (hname : name ∉ placeholders before) (hfilter : registry.contains filter = true) :
    Sound registry (before ++ [.param filter name]) where
  nodup := by
    rw [placeholders_append]
    have hlast : (placeholders [.param filter name]).Nodup :=
      List.nodup_cons.mpr ⟨List.not_mem_nil, .nil⟩
    refine List.nodup_append.mpr ⟨h.nodup, hlast, fun other hother last hlast => ?_⟩
    obtain rfl : last = name := List.mem_singleton.mp hlast
    exact ne_of_mem_of_not_mem hother hname
  registered other name' hmem := by
    rcases List.mem_append.mp hmem with hmem | hmem
    · exact h.registered other name' hmem
    · cases List.mem_singleton.mp hmem
      exact hfilter

/-- Either no placeholder is at fault, or one of them is the first. -/
theorem sound_or_exists_firstFault (registry : Registry) (tokens : List Token) :
    Sound registry tokens ∨ ∃ e, FirstFault registry tokens e := by
  induction tokens using List.reverseRecOn with
  | nil => exact .inl ⟨.nil, fun _ _ hmem => absurd hmem List.not_mem_nil⟩
  | append_singleton before token ih =>
    rcases ih with hsound | ⟨e, first, other, after, rfl, hfirst, hfault⟩
    · -- the last token is sound behind the others, or its fault is the first one
      cases token with
      | literal text => exact .inl (hsound.literal text)
      | param filter name =>
        by_cases hname : name ∈ placeholders before
        · exact .inr ⟨_, before, _, [], rfl, hsound, .duplicateParam hname⟩
        · cases hfilter : registry.contains filter with
          | true => exact .inl (hsound.param hname hfilter)
          | false => exact .inr ⟨_, before, _, [], rfl, hsound, .unknownFilter hname hfilter⟩
    · refine .inr ⟨e, first, other, after ++ [token], ?_, hfirst, hfault⟩
      rw [List.append_assoc, List.cons_append]

/-! ## Compiling -/

theorem isSome_find? (registry : Registry) (name : String) :
    (registry.find? name).isSome = registry.contains name :=
  (Std.ExtTreeMap.contains_eq_isSome_getElem? (t := registry.filters)).symm

/-- A placeholder is compiled with a filter of the registry. -/
theorem registered_of_forall₂ {segments : List Segment}
    (h : List.Forall₂ (Compiles registry) tokens segments) {filter name : String}
    (hmem : .param filter name ∈ tokens) : registry.contains filter = true := by
  induction h with
  | nil => exact absurd hmem List.not_mem_nil
  | cons hfirst _ ih =>
    rcases List.mem_cons.mp hmem with rfl | hmem
    · cases hfirst with
      | param hspec => rw [← isSome_find?, hspec]; rfl
    · exact ih hmem

/-- Tokens are compiled behind names that their placeholders do not use. -/
theorem exists_compileTokens (h : Sound registry tokens)
    (hnames : ∀ name ∈ names, name ∉ placeholders tokens) :
    ∃ segments, compileTokens registry names tokens = .ok segments := by
  induction tokens generalizing names with
  | nil => exact ⟨[], rfl⟩
  | cons token tokens ih =>
    have hregistered : ∀ filter name, .param filter name ∈ tokens →
        registry.contains filter = true :=
      fun filter name hmem => h.registered filter name (List.mem_cons_of_mem token hmem)
    cases token with
    | literal text =>
      obtain ⟨segments, hsegments⟩ := ih ⟨h.nodup, hregistered⟩ hnames
      exact ⟨.literal text :: segments, by rw [compileTokens, hsegments]; rfl⟩
    | param filter name =>
      obtain ⟨hname, hnodup⟩ := List.nodup_cons.mp h.nodup
      have hfresh : name ∉ names := fun hmem => hnames name hmem List.mem_cons_self
      have hothers : ∀ other ∈ name :: names, other ∉ placeholders tokens :=
        List.forall_mem_cons.mpr ⟨hname, fun other hmem hother =>
          hnames other hmem (List.mem_cons_of_mem name hother)⟩
      obtain ⟨segments, hsegments⟩ := ih ⟨hnodup, hregistered⟩ hothers
      have hfilter := h.registered filter name List.mem_cons_self
      rw [← isSome_find?] at hfilter
      obtain ⟨spec, hspec⟩ := Option.isSome_iff_exists.mp hfilter
      exact ⟨.param name spec :: segments, by
        rw [compileTokens, if_neg hfresh]
        simp only [hspec, hsegments]
        rfl⟩

/-- The names of compiled tokens are in use for those behind them. -/
theorem compileTokens_append {segments : List Segment}
    (h : compileTokens registry names before = .ok segments) (after : List Token) :
    compileTokens registry names (before ++ after) =
      (compileTokens registry ((placeholders before).reverse ++ names) after).map
        (segments ++ ·) := by
  induction before generalizing names segments with
  | nil =>
    cases h
    show compileTokens registry names after =
      (compileTokens registry names after).map ([] ++ ·)
    cases compileTokens registry names after <;> rfl
  | cons token before ih =>
    cases token with
    | literal text =>
      obtain ⟨others, hothers, rfl⟩ := compileTokens_literal h
      rw [List.cons_append, compileTokens, ih hothers, placeholders]
      cases compileTokens registry _ after <;> rfl
    | param filter name =>
      obtain ⟨hname, spec, others, hspec, hothers, rfl⟩ := compileTokens_param h
      rw [List.cons_append, compileTokens, if_neg hname, placeholders, List.reverse_cons,
        List.append_assoc, List.singleton_append]
      simp only [hspec, ih hothers]
      cases compileTokens registry _ after <;> rfl

/-- Tokens whose placeholders are not at fault are those that can be compiled. -/
theorem exists_compileTokens_iff :
    (∃ segments, compileTokens registry [] tokens = .ok segments) ↔ Sound registry tokens := by
  constructor
  · rintro ⟨segments, h⟩
    have hcompiles := forall₂_of_compileTokens h
    refine ⟨?_, fun filter name hmem => registered_of_forall₂ hcompiles hmem⟩
    rw [← placeholders_of_forall₂ hcompiles]
    exact (nodup_of_compileTokens h).1
  · exact fun h => exists_compileTokens h fun _ hmem => absurd hmem List.not_mem_nil

/-- Compiling stops at the first fault. -/
theorem compileTokens_of_firstFault (h : FirstFault registry tokens e) :
    compileTokens registry [] tokens = .error e := by
  obtain ⟨before, token, after, rfl, hsound, hfault⟩ := h
  obtain ⟨segments, hsegments⟩ := exists_compileTokens_iff.mpr hsound
  rw [compileTokens_append hsegments, List.append_nil]
  cases hfault with
  | duplicateParam hname =>
    rw [compileTokens, if_pos (List.mem_reverse.mpr hname)]
    rfl
  | unknownFilter hname hfilter =>
    rw [← isSome_find?, Option.isSome_eq_false_iff, Option.isNone_iff_eq_none] at hfilter
    rw [compileTokens, if_neg (mt List.mem_reverse.mp hname)]
    simp only [hfilter]
    rfl

/-- A rule compiles exactly if none of its placeholders is at fault. -/
theorem exists_compile_iff {rule : String} :
    (∃ compiled, compile registry rule = .ok compiled) ↔ Sound registry (tokenize rule) := by
  rw [← exists_compileTokens_iff, compile]
  constructor
  · rintro ⟨compiled, h⟩
    cases htokens : compileTokens registry [] (tokenize rule) with
    | error e => rw [htokens] at h; cases h
    | ok segments => exact ⟨segments, rfl⟩
  · rintro ⟨segments, h⟩
    exact ⟨⟨segments⟩, by rw [h]; rfl⟩

/-- The error of a rule that does not compile is its first fault. -/
theorem compile_eq_error_iff {rule : String} :
    compile registry rule = .error e ↔ FirstFault registry (tokenize rule) e := by
  have hfirst {e : CompileError} (h : FirstFault registry (tokenize rule) e) :
      compile registry rule = .error e := by
    rw [compile, compileTokens_of_firstFault h]
    rfl
  refine ⟨fun h => ?_, hfirst⟩
  rcases sound_or_exists_firstFault registry (tokenize rule) with hsound | ⟨e', hfault⟩
  · obtain ⟨compiled, hcompiled⟩ := exists_compile_iff.mpr hsound
    rw [hcompiled] at h
    cases h
  · rw [hfirst hfault] at h
    cases h
    exact hfault

end WebRouting.Rule
