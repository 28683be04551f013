import WebRouting.Route.Basic

/-! # Routes that were built

What `Route.build` can do is said once (`Route.build_eq_ok`). What is known of a route that it made
(`Route.built`): its methods and its compiled rule are those of the arguments, and its matcher is that
of the compiled rule. A route with parameters compares paths with the expression of its anchored pattern
(`Route.Built.exists_expression`), and a route that matches gives one value for each of its parameters
(`Route.length_of_match?`). -/

namespace WebRouting

/-- The methods of a set are those of the list from which it is made. -/
theorem MethodSet.contains_of_ofList {methods : List String} {set : MethodSet}
    (h : MethodSet.ofList methods = .ok set) (method : String) :
    set.contains method = methods.contains method := by
  rw [MethodSet.ofList] at h
  split at h
  · cases h
  · dsimp only at h
    split at h <;> cases h
    exact NameSet.contains_ofNames methods method

namespace Route

variable {η : Type} {registry : Registry} {rule : String} {methods : List String} {route : Route η}

/-! ## Building -/

/-- A route is built if the methods are some, the rule compiles to something that has a matcher, and the
handler takes as many parameters as the rule has, should this be checked. -/
theorem build_eq_ok [Target η] {handler : η} {options : RouteOptions}
    (h : build registry rule methods handler options = .ok route) :
    ∃ set segments matcher, MethodSet.ofList methods = .ok set ∧
      Rule.compileTokens registry [] (Rule.tokenize rule) = .ok segments ∧
      Matcher.ofCompiled? ⟨segments⟩ = some matcher ∧
      (options.checking = true → (Rule.Compiled.mk segments).params.length = Target.arity handler) ∧
      route = { rule, methods := set, handler, compiled := ⟨segments⟩, matcher,
                endpoint := options.endpoint.getD (Target.name handler) } := by
  rw [build] at h
  cases hmethods : MethodSet.ofList methods with
  | error e => rw [hmethods] at h; cases h
  | ok set =>
    rw [hmethods] at h
    cases hsegments : Rule.compileTokens registry [] (Rule.tokenize rule) with
    | error e =>
      rw [Rule.compile, hsegments] at h
      cases h
    | ok segments =>
      rw [Rule.compile, hsegments] at h
      -- with methods and segments at hand, only the two checks are left
      change (if _ then _ else _) = _ at h
      split at h
      · cases h
      · rename_i hcheck
        cases hmatcher : Matcher.ofCompiled? ⟨segments⟩ with
        | none => rw [hmatcher] at h; cases h
        | some matcher =>
          rw [hmatcher] at h
          cases h
          exact ⟨set, segments, matcher, rfl, rfl, hmatcher,
            fun hchecking => Decidable.byContradiction fun hne => hcheck ⟨hchecking, hne⟩, rfl⟩

/-- The route is one for the rule under the methods, with filters of the registry. -/
structure Built (registry : Registry) (rule : String) (methods : List String) (route : Route η) :
    Prop where
  /-- The segments are those of the tokens of the rule. -/
  segments : Rule.compileTokens registry [] (Rule.tokenize rule) = .ok route.compiled.segments
  /-- The matcher is that of the compiled rule. -/
  matcher : Matcher.ofCompiled? route.compiled = some route.matcher
  /-- The methods are those of the list. -/
  methods : MethodSet.ofList methods = .ok route.methods
  /-- The rule is kept. -/
  rule : route.rule = rule

/-- What is built is a route for the rule under the methods. -/
theorem built [Target η] {handler : η} {options : RouteOptions}
    (h : build registry rule methods handler options = .ok route) :
    Built registry rule methods route := by
  obtain ⟨set, segments, matcher, hmethods, hsegments, hmatcher, -, rfl⟩ := build_eq_ok h
  exact ⟨hsegments, hmatcher, hmethods, rfl⟩

/-- The methods of a route that was built are those of the list. -/
theorem Built.allows (h : Built registry rule methods route) (method : String) :
    route.allows method = methods.contains method :=
  MethodSet.contains_of_ofList h.methods method

/-- A route without parameters compares paths with the text of its rule. -/
theorem Built.matcher_of_isStatic (h : Built registry rule methods route)
    (hstatic : route.isStatic = true) :
    route.compiled.params = [] ∧ route.matcher = .exact route.compiled.text := by
  have hmatcher := h.matcher
  rw [Matcher.ofCompiled?] at hmatcher
  split at hmatcher
  · next hparams => exact ⟨List.isEmpty_iff.mp hparams, (Option.some.inj hmatcher).symm⟩
  · obtain ⟨expression, -, hregex⟩ := Option.map_eq_some_iff.mp hmatcher
    rw [isStatic, staticKey?, ← hregex] at hstatic
    cases hstatic

theorem Built.exists_expression (h : Built registry rule methods route)
    (hdynamic : route.isStatic = false) :
    ∃ expression, route.matcher = .regex route.compiled.source expression ∧
      Regex.read? (Matcher.anchored route.compiled.source).toList = some expression := by
  have hmatcher := h.matcher
  rw [Matcher.ofCompiled?] at hmatcher
  split at hmatcher
  · rw [isStatic, staticKey?, ← Option.some.inj hmatcher] at hdynamic
    cases hdynamic
  · obtain ⟨expression, hread, hregex⟩ := Option.map_eq_some_iff.mp hmatcher
    exact ⟨expression, hregex.symm, hread⟩

/-- Where a check of the route can be run, there is a route. -/
theorem exists_build_of_any [Target η] {handler : η} {options : RouteOptions} {p : Route η → Bool}
    (h : (build registry rule methods handler options).toOption.any p = true) :
    ∃ route, build registry rule methods handler options = .ok route ∧ p route = true := by
  cases hbuild : build registry rule methods handler options with
  | error e => rw [hbuild] at h; cases h
  | ok route => rw [hbuild] at h; exact ⟨route, rfl, h⟩

/-! ## Matching -/

/-- A route has an answer to the requests with its methods for the paths that it matches. -/
theorem isSome_match? (route : Route η) (path method : String) :
    (route.match? path method).isSome = (route.allows method && route.matchesPath path) := by
  rw [match?, matchesPath]
  by_cases hm : route.allows method
  · cases route.matcher with
    | exact text => by_cases ht : text = path <;> simp [hm, ht]
    | regex source expression => simp [hm, Regex.isMatch]
  · simp [hm]

/-! ## Values -/

/-- Decoding parameters gives one value for each of them. -/
theorem length_of_mapM_decodeParam {rule : String} {c : Cursor} {params : List (String × Filter)}
    {values : List Value} (h : params.mapM (decodeParam rule c) = .ok values) :
    values.length = params.length := by
  induction params generalizing values with
  | nil => cases h; rfl
  | cons param params ih =>
    rw [List.mapM_cons] at h
    cases hvalue : decodeParam rule c param with
    | error e => rw [hvalue] at h; cases h
    | ok value =>
      rw [hvalue] at h
      cases hrest : params.mapM (decodeParam rule c) with
      | error e => rw [hrest] at h; cases h
      | ok rest =>
        rw [hrest] at h
        cases h
        exact congrArg Nat.succ (ih hrest)

/-- A route with the matcher of its compiled rule, when it matches, gives as many values as the rule has
parameters. -/
theorem length_of_match? (hmatcher : Matcher.ofCompiled? route.compiled = some route.matcher)
    {path method : String} {values : List Value}
    (h : route.match? path method = some (.ok values)) :
    values.length = route.compiled.params.length := by
  rw [match?] at h
  split at h
  · cases h
  · rw [Matcher.ofCompiled?] at hmatcher
    split at hmatcher
    · -- without parameters there are no values either
      rename_i hstatic
      rw [← Option.some.inj hmatcher] at h
      dsimp only at h
      split at h <;> cases h
      exact (congrArg List.length (List.isEmpty_iff.mp hstatic)).symm
    · obtain ⟨expression, -, hregex⟩ := Option.map_eq_some_iff.mp hmatcher
      rw [← hregex] at h
      obtain ⟨last, -, hvalues⟩ := Option.map_eq_some_iff.mp h
      exact length_of_mapM_decodeParam hvalues

end Route

end WebRouting
