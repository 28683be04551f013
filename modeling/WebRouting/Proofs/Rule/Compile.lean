import Mathlib.Data.List.Forall2
import WebRouting.Proofs.Rule.Token
import WebRouting.Rule.Compile

/-! # Compiled rules and their tokens

A compiled rule has one segment for each token of the rule, in order (`forall₂_of_compileTokens`), and
no two of its parameters have the same name (`nodup_of_compileTokens`). The names of parameters are
names indeed (`isName_of_mem_tokenize`). Registries that agree on the filters that a rule uses compile it
alike, be it to a compiled rule or to an error (`compile_congr`). -/

namespace WebRouting.Rule

variable {registry : Registry}

/-! ## Names of parameters -/

/-- The names of the parameters of a rule are well-formed. -/
theorem isName_of_mem_tokenize {rule filter name : String}
    (h : .param filter name ∈ tokenize rule) : isName name.toList = true :=
  ((isNormal_tokenize rule).wellFormed _ h).2.2

/-! ## Segments -/

/-- The segment that a token is compiled to with the filters of a registry. -/
inductive Compiles (registry : Registry) : Token → Segment → Prop where
  /-- Text stays as it is. -/
  | literal (text : String) : Compiles registry (.literal text) (.literal text)
  /-- A parameter gets the filter that it names. -/
  | param {filter name : String} {spec : Filter} (h : registry.find? filter = some spec) :
      Compiles registry (.param filter name) (.param name spec)

theorem compileTokens_literal {names : List String} {text : String} {tokens : List Token}
    {segments : List Segment}
    (h : compileTokens registry names (.literal text :: tokens) = .ok segments) :
    ∃ others, compileTokens registry names tokens = .ok others ∧
      segments = .literal text :: others := by
  rw [compileTokens] at h
  cases htokens : compileTokens registry names tokens with
  | error e => rw [htokens] at h; cases h
  | ok others => rw [htokens] at h; cases h; exact ⟨others, rfl, rfl⟩

theorem compileTokens_param {names : List String} {filter name : String} {tokens : List Token}
    {segments : List Segment}
    (h : compileTokens registry names (.param filter name :: tokens) = .ok segments) :
    name ∉ names ∧ ∃ spec others, registry.find? filter = some spec ∧
      compileTokens registry (name :: names) tokens = .ok others ∧
      segments = .param name spec :: others := by
  rw [compileTokens] at h
  split at h
  · cases h
  · next hname =>
    split at h
    · cases h
    · next spec hspec =>
      cases htokens : compileTokens registry (name :: names) tokens with
      | error e => rw [htokens] at h; cases h
      | ok others => rw [htokens] at h; cases h; exact ⟨hname, spec, others, hspec, rfl, rfl⟩

/-- A rule that compiles has the segments of its tokens. -/
theorem compileTokens_of_compile {rule : String} {c : Compiled}
    (h : compile registry rule = .ok c) :
    compileTokens registry [] (tokenize rule) = .ok c.segments := by
  rw [compile] at h
  cases htokens : compileTokens registry [] (tokenize rule) with
  | error e => rw [htokens] at h; cases h
  | ok segments => rw [htokens] at h; cases h; rfl

/-- Each token of a rule is compiled to one segment. -/
theorem forall₂_of_compileTokens {names : List String} {tokens : List Token}
    {segments : List Segment} (h : compileTokens registry names tokens = .ok segments) :
    List.Forall₂ (Compiles registry) tokens segments := by
  induction tokens generalizing names segments with
  | nil => cases h; exact .nil
  | cons token tokens ih =>
    cases token with
    | literal text =>
      obtain ⟨others, hothers, rfl⟩ := compileTokens_literal h
      exact .cons (.literal text) (ih hothers)
    | param filter name =>
      obtain ⟨-, spec, others, hspec, hothers, rfl⟩ := compileTokens_param h
      exact .cons (.param hspec) (ih hothers)

/-- Each segment is compiled from a token. -/
theorem exists_compiles_of_mem {tokens : List Token} {segments : List Segment}
    (h : List.Forall₂ (Compiles registry) tokens segments) {s : Segment} (hs : s ∈ segments) :
    ∃ token ∈ tokens, Compiles registry token s := by
  induction h with
  | nil => cases hs
  | cons hcompiles hothers ih =>
    rcases List.mem_cons.mp hs with rfl | hs
    · exact ⟨_, List.mem_cons_self, hcompiles⟩
    · obtain ⟨token, htoken, hcompiles⟩ := ih hs
      exact ⟨token, List.mem_cons_of_mem _ htoken, hcompiles⟩

/-- What holds of the filters that tokens name holds of the filters of the parameters. -/
theorem forall_params_of_forall₂ {P : Filter → Prop} {tokens : List Token} {segments : List Segment}
    (h : List.Forall₂ (Compiles registry) tokens segments)
    (htokens : ∀ filter name spec, .param filter name ∈ tokens → registry.find? filter = some spec →
      P spec) : ∀ param ∈ (Compiled.mk segments).params, P param.2 := by
  intro param hparam
  obtain ⟨segment, hmem, hsegment⟩ := List.mem_filterMap.mp hparam
  obtain ⟨token, htoken, hcompiles⟩ := exists_compiles_of_mem h hmem
  cases hcompiles with
  | literal text => cases hsegment
  | param hspec =>
    cases hsegment
    exact htokens _ _ _ htoken hspec

/-- No two parameters of a compiled rule have the same name. -/
theorem nodup_of_compileTokens {names : List String} {tokens : List Token}
    {segments : List Segment} (h : compileTokens registry names tokens = .ok segments) :
    (Compiled.mk segments).paramNames.Nodup ∧
      ∀ name ∈ names, name ∉ (Compiled.mk segments).paramNames := by
  induction tokens generalizing names segments with
  | nil => cases h; exact ⟨.nil, fun _ _ => List.not_mem_nil⟩
  | cons token tokens ih =>
    cases token with
    | literal text =>
      obtain ⟨others, hothers, rfl⟩ := compileTokens_literal h
      have hnames := ih hothers
      exact hnames
    | param filter name =>
      obtain ⟨hname, spec, others, -, hothers, rfl⟩ := compileTokens_param h
      obtain ⟨hnodup, hdisjoint⟩ := ih hothers
      have hhead := hdisjoint name (List.mem_cons_self ..)
      -- the names so far grow with each parameter, and no later one is among them
      refine ⟨List.nodup_cons.mpr ⟨hhead, hnodup⟩, fun other hother hmem => ?_⟩
      rcases List.mem_cons.mp hmem with rfl | hmem
      · exact hname hother
      · exact hdisjoint other (List.mem_cons_of_mem _ hother) hmem

/-! ## Registries -/

/-- Whether a rule has a parameter with the filter of a name. -/
def Uses (rule filter : String) : Prop := ∃ name, Token.param filter name ∈ tokenize rule

/-- Compiling tokens looks up the filters that they name and no others. -/
theorem compileTokens_congr {other : Registry} {tokens : List Token}
    (h : ∀ filter name, .param filter name ∈ tokens → registry.find? filter = other.find? filter)
    (names : List String) :
    compileTokens registry names tokens = compileTokens other names tokens := by
  induction tokens generalizing names with
  | nil => rfl
  | cons token tokens ih =>
    have hrest := ih fun filter name hmem => h filter name (List.mem_cons_of_mem token hmem)
    cases token with
    | literal text => rw [compileTokens, compileTokens, hrest]
    | param filter name =>
      have hfilter := h filter name List.mem_cons_self
      rw [compileTokens, compileTokens, hrest, hfilter]

/-- Registries that have the same filters under the names that a rule uses compile the rule alike. -/
theorem compile_congr {other : Registry} {rule : String}
    (h : ∀ filter, Uses rule filter → registry.find? filter = other.find? filter) :
    compile registry rule = compile other rule := by
  have htokens := compileTokens_congr (fun filter name hmem => h filter ⟨name, hmem⟩) []
  rw [compile, compile, htokens]

/-- A name that a rule does not use may be registered before or after it is compiled. -/
theorem compile_register {rule name : String} (h : ¬Uses rule name) (filter : Filter) :
    compile (registry.register name filter) rule = compile registry rule := by
  apply compile_congr
  intro other hother
  apply Registry.find?_register_of_ne
  rintro rfl
  exact h hother

end WebRouting.Rule
