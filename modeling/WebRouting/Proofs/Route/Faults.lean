import WebRouting.Proofs.Route.Build
import WebRouting.Proofs.Rule.Faults

/-! # Faults of routes

Which arguments a route is made from, and the error for all others (`Route.build_iff`). Four things are
checked in turn: the methods, the placeholders of the rule, their number, and the pattern. The error
is the first fault in this order, and within the methods and the placeholders the one of the first entry
at fault. -/

namespace WebRouting

/-! ## Methods -/

namespace MethodSet

/-- The text is a verb: capital ASCII letters, at least one. -/
def IsVerb (method : String) : Prop := method ≠ "" ∧ ∀ c ∈ method.toList, 'A' ≤ c ∧ c ≤ 'Z'

theorem isMethodName_iff {method : String} : isMethodName method = true ↔ IsVerb method := by
  have hletter (c : Char) : c.isUpper = true ↔ 'A' ≤ c ∧ c ≤ 'Z' := decide_eq_true_iff
  rw [isMethodName, IsVerb, Bool.and_eq_true, decide_eq_true_iff, List.all_eq_true]
  simp only [hletter]

/-- The entries are verbs, and there is one. -/
def AreVerbs (methods : List String) : Prop := methods ≠ [] ∧ ∀ method ∈ methods, IsVerb method

/-- A set is made of verbs, at least one. -/
theorem exists_ofList_iff {methods : List String} :
    (∃ set, ofList methods = .ok set) ↔ AreVerbs methods := by
  rw [ofList]
  constructor
  · rintro ⟨set, h⟩
    split at h
    · cases h
    · next hfind =>
      dsimp only at h
      split at h
      · next hempty =>
        rw [NameSet.isEmpty_ofNames] at hempty
        refine ⟨List.isEmpty_eq_false_iff.mp hempty, fun method hmem => ?_⟩
        simpa [isMethodName_iff] using List.find?_eq_none.mp hfind method hmem
      · cases h
  · rintro ⟨hne, hverbs⟩
    have hfind : methods.find? (!isMethodName ·) = none :=
      List.find?_eq_none.mpr fun method hmem => by
        simpa [isMethodName_iff] using hverbs method hmem
    have hempty : (NameSet.ofNames methods).isEmpty = false := by
      rw [NameSet.isEmpty_ofNames]
      exact List.isEmpty_eq_false_iff.mpr hne
    exact ⟨⟨_, hempty⟩, by rw [hfind]; exact dif_pos hempty⟩

/-- What is wrong with methods of which no set can be made. -/
inductive FirstFault (methods : List String) : MethodsFault → Prop where
  /-- The first entry that is no verb. -/
  | notUppercase {before after : List String} {method : String}
      (hmethods : methods = before ++ method :: after) (hbefore : ∀ verb ∈ before, IsVerb verb)
      (hmethod : ¬IsVerb method) : FirstFault methods (.notUppercase method)
  /-- There is no entry. -/
  | noMethod (hmethods : methods = []) : FirstFault methods .noMethod

/-- The error of methods of which no set can be made is their first fault. -/
theorem ofList_eq_error_iff {methods : List String} {fault : MethodsFault} :
    ofList methods = .error fault ↔ FirstFault methods fault := by
  constructor
  · intro h
    rw [ofList] at h
    split at h
    · next method hfind =>
      cases h
      obtain ⟨hmethod, before, after, hmethods, hbefore⟩ := List.find?_eq_some_iff_append.mp hfind
      rw [Bool.not_eq_true', ← Bool.not_eq_true, isMethodName_iff] at hmethod
      refine .notUppercase hmethods (fun verb hmem => ?_) hmethod
      simpa [isMethodName_iff] using hbefore verb hmem
    · dsimp only at h
      split at h
      · cases h
      · next hempty =>
        cases h
        rw [NameSet.isEmpty_ofNames, Bool.not_eq_false, List.isEmpty_iff] at hempty
        exact .noMethod hempty
  · intro h
    cases h with
    | @notUppercase before after method hmethods hbefore hmethod =>
      have hfind : methods.find? (!isMethodName ·) = some method := by
        refine List.find?_eq_some_iff_append.mpr ⟨?_, before, after, hmethods, fun verb hmem => ?_⟩
        · rw [Bool.not_eq_true', ← Bool.not_eq_true, isMethodName_iff]
          exact hmethod
        · simpa [isMethodName_iff] using hbefore verb hmem
      rw [ofList, hfind]
    | noMethod hmethods =>
      subst hmethods
      rfl

end MethodSet

/-! ## Patterns -/

namespace Rule

variable {registry : Registry} {tokens : List Token} {segments : List Segment}

/-- The pattern of a token: the escaped text of a literal, and for a placeholder a group with its name
around the pattern of its filter. -/
def Token.pattern (registry : Registry) : Token → String
  | literal text => String.ofList (Regex.escape text.toList)
  | param filter name =>
    "(?P<" ++ name ++ ">" ++ ((registry.find? filter).map Filter.pattern).getD "" ++ ")"

/-- The pattern for whole paths that tokens make. -/
def pathPattern (registry : Registry) (tokens : List Token) : String :=
  "^(?:" ++ String.join (tokens.map (Token.pattern registry)) ++ ")$"

/-- The pattern of a compiled rule is that of its tokens. -/
theorem anchored_source_of_forall₂ (h : List.Forall₂ (Compiles registry) tokens segments) :
    Matcher.anchored (Compiled.mk segments).source = pathPattern registry tokens := by
  have hsources : segments.map Segment.source = tokens.map (Token.pattern registry) := by
    induction h with
    | nil => rfl
    | cons hfirst _ ih =>
      rw [List.map_cons, List.map_cons, ih]
      cases hfirst with
      | literal text => rfl
      | param hspec => rw [Token.pattern, hspec]; rfl
  rw [Matcher.anchored, Compiled.source, hsources, pathPattern]

/-- A compiled rule has a matcher if it has no placeholders or its pattern is an expression. -/
theorem isSome_ofCompiled?_iff (h : List.Forall₂ (Compiles registry) tokens segments) :
    (Matcher.ofCompiled? ⟨segments⟩).isSome = true ↔
      placeholders tokens = [] ∨ (Regex.read? (pathPattern registry tokens).toList).isSome = true := by
  have hstatic : (Compiled.mk segments).isStatic = true ↔ placeholders tokens = [] := by
    rw [← placeholders_of_forall₂ h, Compiled.isStatic, List.isEmpty_iff, Compiled.paramNames,
      List.map_eq_nil_iff]
  rw [Matcher.ofCompiled?, anchored_source_of_forall₂ h]
  split
  · next hcompiled => exact ⟨fun _ => .inl (hstatic.mp hcompiled), fun _ => rfl⟩
  · next hcompiled =>
    rw [Option.isSome_map]
    exact ⟨.inr, fun hor => hor.resolve_left fun hnone => hcompiled (hstatic.mpr hnone)⟩

end Rule

namespace Route

variable {η : Type} [Target η] {registry : Registry} {rule : String} {methods : List String}
  {handler : η} {options : RouteOptions} {route : Route η} {e : RouteError}

/-! ## Routes -/

/-- How many parameters a rule has. -/
def paramCount (rule : String) : Nat := (Rule.placeholders (Rule.tokenize rule)).length

/-- The number of parameters is that of the handler, should this be checked. -/
def ArityAgrees (rule : String) (handler : η) (options : RouteOptions) : Prop :=
  options.checking = true → paramCount rule = Target.arity handler

/-- The rule has no parameters, or its pattern is an expression. -/
def PatternAgrees (registry : Registry) (rule : String) : Prop :=
  Rule.placeholders (Rule.tokenize rule) = [] ∨
    (Regex.read? (Rule.pathPattern registry (Rule.tokenize rule)).toList).isSome = true

/-- Arguments without a fault. -/
structure Buildable (registry : Registry) (rule : String) (methods : List String) (handler : η)
    (options : RouteOptions) : Prop where
  /-- The methods are verbs, at least one. -/
  methods : MethodSet.AreVerbs methods
  /-- No placeholder is at fault. -/
  placeholders : Rule.Sound registry (Rule.tokenize rule)
  /-- The handler takes the parameters of the rule. -/
  arity : ArityAgrees rule handler options
  /-- The pattern can be read. -/
  pattern : PatternAgrees registry rule

/-- The first fault of arguments. Each fault counts only if none stands before it in this list. -/
inductive FirstFault (registry : Registry) (rule : String) (methods : List String) (handler : η)
    (options : RouteOptions) : RouteError → Prop where
  /-- An entry is no verb, or there is none. -/
  | methods {fault : MethodsFault} (hmethods : MethodSet.FirstFault methods fault) :
      FirstFault registry rule methods handler options (.invalidMethods rule fault)
  /-- The name of a placeholder has been used before. -/
  | duplicateParam {name : String} (hmethods : MethodSet.AreVerbs methods)
      (hrule : Rule.FirstFault registry (Rule.tokenize rule) (.duplicateParam name)) :
      FirstFault registry rule methods handler options (.duplicateParam rule name)
  /-- The filter of a placeholder is not registered. -/
  | unknownFilter {filter : String} (hmethods : MethodSet.AreVerbs methods)
      (hrule : Rule.FirstFault registry (Rule.tokenize rule) (.unknownFilter filter)) :
      FirstFault registry rule methods handler options (.unknownFilter rule filter)
  /-- The handler takes another number of parameters. -/
  | arity (hmethods : MethodSet.AreVerbs methods)
      (hrule : Rule.Sound registry (Rule.tokenize rule)) (harity : ¬ArityAgrees rule handler options) :
      FirstFault registry rule methods handler options (.arityMismatch rule
        (options.endpoint.getD (Target.name handler)) (paramCount rule) (Target.arity handler))
  /-- The pattern is no expression. -/
  | pattern (hmethods : MethodSet.AreVerbs methods)
      (hrule : Rule.Sound registry (Rule.tokenize rule)) (harity : ArityAgrees rule handler options)
      (hpattern : ¬PatternAgrees registry rule) :
      FirstFault registry rule methods handler options (.invalidPattern rule)

/-- With verbs and a compiled rule only the number of parameters and the pattern are left. -/
theorem build_of_ok {set : MethodSet} {compiled : Rule.Compiled}
    (hmethods : MethodSet.ofList methods = .ok set)
    (hcompile : Rule.compile registry rule = .ok compiled) :
    build registry rule methods handler options =
      if options.checking = true ∧ compiled.params.length ≠ Target.arity handler then
        .error (.arityMismatch rule (options.endpoint.getD (Target.name handler))
          compiled.params.length (Target.arity handler))
      else
        match Matcher.ofCompiled? compiled with
        | none => .error (.invalidPattern rule)
        | some matcher => .ok { rule, methods := set, handler, compiled, matcher,
                                endpoint := options.endpoint.getD (Target.name handler) } := by
  rw [build, hmethods, hcompile]
  rfl

/-- With verbs and sound placeholders there are a set and segments to build a route from. -/
theorem exists_set_segments (hmethods : MethodSet.AreVerbs methods)
    (hrule : Rule.Sound registry (Rule.tokenize rule)) :
    ∃ set segments, MethodSet.ofList methods = .ok set ∧
      Rule.compile registry rule = .ok ⟨segments⟩ ∧
      (Rule.Compiled.mk segments).params.length = paramCount rule ∧
      ((Matcher.ofCompiled? ⟨segments⟩).isSome = true ↔ PatternAgrees registry rule) := by
  obtain ⟨set, hset⟩ := MethodSet.exists_ofList_iff.mpr hmethods
  obtain ⟨segments, hsegments⟩ := Rule.exists_compileTokens_iff.mpr hrule
  have hcompiles := Rule.forall₂_of_compileTokens hsegments
  refine ⟨set, segments, hset, ?_, ?_, Rule.isSome_ofCompiled?_iff hcompiles⟩
  · rw [Rule.compile, hsegments]
    rfl
  · rw [paramCount, ← Rule.placeholders_of_forall₂ hcompiles, Rule.Compiled.paramNames,
      List.length_map]

/-- Arguments without a fault give a route. -/
theorem Buildable.exists_build (h : Buildable registry rule methods handler options) :
    ∃ route, build registry rule methods handler options = .ok route := by
  obtain ⟨set, segments, hset, hcompile, hcount, hpattern⟩ :=
    exists_set_segments h.methods h.placeholders
  obtain ⟨matcher, hmatcher⟩ := Option.isSome_iff_exists.mp (hpattern.mpr h.pattern)
  have hcheck : ¬(options.checking = true ∧
      (Rule.Compiled.mk segments).params.length ≠ Target.arity handler) := by
    rintro ⟨hchecking, hne⟩
    exact hne (hcount.trans (h.arity hchecking))
  rw [build_of_ok hset hcompile, if_neg hcheck, hmatcher]
  exact ⟨_, rfl⟩

/-- The first fault is the error. -/
theorem FirstFault.build_eq (h : FirstFault registry rule methods handler options e) :
    build registry rule methods handler options = .error e := by
  cases h with
  | methods hmethods =>
    rw [build, MethodSet.ofList_eq_error_iff.mpr hmethods]
    rfl
  | duplicateParam hmethods hrule =>
    obtain ⟨set, hset⟩ := MethodSet.exists_ofList_iff.mpr hmethods
    rw [build, hset, Rule.compile_eq_error_iff.mpr hrule]
    rfl
  | unknownFilter hmethods hrule =>
    obtain ⟨set, hset⟩ := MethodSet.exists_ofList_iff.mpr hmethods
    rw [build, hset, Rule.compile_eq_error_iff.mpr hrule]
    rfl
  | arity hmethods hrule harity =>
    obtain ⟨set, segments, hset, hcompile, hcount, -⟩ := exists_set_segments hmethods hrule
    obtain ⟨hchecking, hne⟩ := Classical.not_imp.mp harity
    rw [build_of_ok hset hcompile, hcount, if_pos ⟨hchecking, hne⟩]
  | pattern hmethods hrule harity hpattern =>
    obtain ⟨set, segments, hset, hcompile, hcount, hsome⟩ := exists_set_segments hmethods hrule
    rw [← hsome, Option.not_isSome_iff_eq_none] at hpattern
    have hcheck : ¬(options.checking = true ∧ paramCount rule ≠ Target.arity handler) :=
      fun h => h.2 (harity h.1)
    rw [build_of_ok hset hcompile, hcount, if_neg hcheck, hpattern]

/-- Arguments have no fault, or one of them is the first. -/
theorem buildable_or_exists_firstFault (registry : Registry) (rule : String)
    (methods : List String) (handler : η) (options : RouteOptions) :
    Buildable registry rule methods handler options ∨
      ∃ e, FirstFault registry rule methods handler options e := by
  by_cases hmethods : MethodSet.AreVerbs methods
  · rcases Rule.sound_or_exists_firstFault registry (Rule.tokenize rule) with hrule | ⟨e, hrule⟩
    · by_cases harity : ArityAgrees rule handler options
      · by_cases hpattern : PatternAgrees registry rule
        · exact .inl ⟨hmethods, hrule, harity, hpattern⟩
        · exact .inr ⟨_, .pattern hmethods hrule harity hpattern⟩
      · exact .inr ⟨_, .arity hmethods hrule harity⟩
    · cases e with
      | duplicateParam name => exact .inr ⟨_, .duplicateParam hmethods hrule⟩
      | unknownFilter filter => exact .inr ⟨_, .unknownFilter hmethods hrule⟩
  · cases hset : MethodSet.ofList methods with
    | ok set => exact absurd (MethodSet.exists_ofList_iff.mp ⟨set, hset⟩) hmethods
    | error fault => exact .inr ⟨_, .methods (MethodSet.ofList_eq_error_iff.mp hset)⟩

/-- What a route is made from has no fault. -/
theorem buildable_of_build (h : build registry rule methods handler options = .ok route) :
    Buildable registry rule methods handler options := by
  rcases buildable_or_exists_firstFault registry rule methods handler options with
    hbuildable | ⟨e, hfault⟩
  · exact hbuildable
  · rw [hfault.build_eq] at h
    cases h

/-- The error is the first fault. -/
theorem firstFault_of_build (h : build registry rule methods handler options = .error e) :
    FirstFault registry rule methods handler options e := by
  rcases buildable_or_exists_firstFault registry rule methods handler options with
    hbuildable | ⟨e', hfault⟩
  · obtain ⟨route, hroute⟩ := hbuildable.exists_build
    rw [hroute] at h
    cases h
  · rw [hfault.build_eq] at h
    cases h
    exact hfault

/-- The number of parameters is refused if it is checked and not that of the handler, and neither the
methods nor the placeholders are at fault. -/
theorem build_eq_arityMismatch_iff {endpoint : String} {expected found : Nat} :
    build registry rule methods handler options =
        .error (.arityMismatch rule endpoint expected found) ↔
      MethodSet.AreVerbs methods ∧ Rule.Sound registry (Rule.tokenize rule) ∧
        options.checking = true ∧ paramCount rule ≠ Target.arity handler ∧
        endpoint = options.endpoint.getD (Target.name handler) ∧ expected = paramCount rule ∧
        found = Target.arity handler := by
  constructor
  · intro h
    cases firstFault_of_build h with
    | arity hmethods hrule harity =>
      obtain ⟨hchecking, hne⟩ := Classical.not_imp.mp harity
      exact ⟨hmethods, hrule, hchecking, hne, rfl, rfl, rfl⟩
  · rintro ⟨hmethods, hrule, hchecking, hne, rfl, rfl, rfl⟩
    exact FirstFault.build_eq (.arity hmethods hrule fun harity => hne (harity hchecking))

/-- **What a route can be made from.** A route is made from arguments exactly if the methods are verbs
and there is one, every placeholder of the rule names a registered filter and no two have the same name,
their number is that of the handler's parameters should this be checked, and the rule has no placeholders
or its pattern is an expression. For all other arguments the error is the first fault in this order. -/
theorem build_iff (registry : Registry) (rule : String) (methods : List String) (handler : η)
    (options : RouteOptions) :
    ((∃ route, build registry rule methods handler options = .ok route) ↔
      Buildable registry rule methods handler options) ∧
    ∀ e, build registry rule methods handler options = .error e ↔
      FirstFault registry rule methods handler options e := by
  refine ⟨⟨?_, Buildable.exists_build⟩, fun e => ⟨firstFault_of_build, FirstFault.build_eq⟩⟩
  rintro ⟨route, hroute⟩
  exact buildable_of_build hroute

end Route

end WebRouting
