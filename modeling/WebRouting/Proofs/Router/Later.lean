import WebRouting.Proofs.Router.Order

/-! # Later registrations

What one more route can change. A request that is answered keeps its answer, for every list of routes is
tried from its start (`Indexed.resolve_add`, and `Indexed.resolve_foldl_add` for any number of further
routes); only a route without parameters whose text is the path takes the request over, if it is the
first such route. A route that does not match a path changes nothing for the path but one thing: its
method may be one that no route with parameters had before, and then a path that is matched under other
methods is refused instead of unknown (`Exposes`). -/

namespace WebRouting.Router

variable {η : Type} {r : Router η} {route : Route η} {path method : String}

/-! ## Lists with one more route -/

theorem filter_concat (p : Route η → Bool) (routes : List (Route η)) (route : Route η) :
    (routes ++ [route]).filter p = routes.filter p ++ if p route then [route] else [] := by
  rw [List.filter_append]
  by_cases h : p route <;> simp [h]

/-- A route without a property is left out of the routes that have it. -/
theorem filter_concat_of_neg {p : Route η → Bool} (h : p route = false) (routes : List (Route η)) :
    (routes ++ [route]).filter p = routes.filter p := by
  simp [h]

/-- A property that no route of a list has. -/
theorem filter_eq_nil {p : Route η → Bool} {routes : List (Route η)} :
    routes.filter p = [] ↔ ∀ route ∈ routes, p route = false := by
  simp only [List.filter_eq_nil_iff, Bool.not_eq_true]

/-- Among routes of which one has the method, the routes behind them are not looked at. -/
theorem resolveStatic_append {candidates : List (Route η)}
    (h : IsAnswered (resolveStatic candidates path method)) (others : List (Route η)) :
    resolveStatic (candidates ++ others) path method = resolveStatic candidates path method := by
  rw [resolveStatic] at h
  cases hfind : candidates.find? (·.allows method) with
  | none =>
    rw [hfind] at h
    exact h.elim
  | some found => simp only [resolveStatic, List.find?_append, hfind, Option.some_or]

/-! ## Answered requests -/

/-- A request that is answered keeps its answer when a route is added, unless the route is the first one
without parameters whose text is the path. -/
theorem Indexed.resolve_add (h : r.Indexed) (hanswered : IsAnswered (r.resolve path method))
    (hroute : belongsToPath path route = true → r.routes.filter (belongsToPath path) ≠ []) :
    (r.add route).resolve path method = r.resolve path method := by
  by_cases hfixed : r.routes.filter (belongsToPath path) = []
  · have hother : belongsToPath path route = false :=
      Bool.eq_false_iff.mpr fun hpath => hroute hpath hfixed
    have hfixed' : (r.add route).routes.filter (belongsToPath path) = [] := by
      rw [routes_add, filter_concat_of_neg hother, hfixed]
    rw [h.resolve_dynamic hfixed] at hanswered ⊢
    rw [(h.add route).resolve_dynamic hfixed', routes_add, filter_concat]
    -- a route with the method has answered, and the new one stands behind it
    by_cases hnone : r.routes.filter (belongsToMethod method) = []
    · rw [if_pos hnone] at hanswered
      exact hanswered.elim
    · rw [if_neg hnone] at hanswered ⊢
      rw [if_neg (List.append_ne_nil_of_left_ne_nil hnone _)]
      cases hfind : (r.routes.filter (belongsToMethod method)).findSome? (answer? path method) with
      | some answer => rw [List.findSome?_append, hfind]; rfl
      | none =>
        rw [hfind, Option.getD_none, refusal_eq] at hanswered
        split at hanswered <;> exact hanswered.elim
  · have hfixed' : (r.add route).routes.filter (belongsToPath path) ≠ [] := by
      rw [routes_add, filter_concat]
      exact List.append_ne_nil_of_left_ne_nil hfixed _
    rw [h.resolve_fixed hfixed] at hanswered ⊢
    rw [(h.add route).resolve_fixed hfixed', routes_add, filter_concat,
      resolveStatic_append hanswered]

/-- A request that is answered keeps its answer however many routes are added, unless one of them is the
first without parameters whose text is the path. -/
theorem Indexed.resolve_foldl_add (h : r.Indexed) (hanswered : IsAnswered (r.resolve path method))
    {later : List (Route η)} (hlater : r.routes.filter (belongsToPath path) ≠ [] ∨
      ∀ route ∈ later, belongsToPath path route = false) :
    (later.foldl Router.add r).resolve path method = r.resolve path method := by
  induction later generalizing r with
  | nil => rfl
  | cons route later ih =>
    have hstep : (r.add route).resolve path method = r.resolve path method := by
      refine h.resolve_add hanswered fun hpath => hlater.resolve_right fun hnone => ?_
      rw [hnone route List.mem_cons_self] at hpath
      cases hpath
    -- a path that has been the text of a route stays one
    have hlater' : (r.add route).routes.filter (belongsToPath path) ≠ [] ∨
        ∀ other ∈ later, belongsToPath path other = false := by
      refine hlater.imp (fun hfixed => ?_) fun hnone other hother =>
        hnone other (List.mem_cons_of_mem _ hother)
      rw [routes_add, filter_concat]
      exact List.append_ne_nil_of_left_ne_nil hfixed _
    rw [List.foldl_cons, ih (h.add route) (by rwa [hstep]) hlater', hstep]

/-- The first route without parameters whose text is a path decides the requests for the path. -/
theorem Indexed.resolve_add_of_belongsToPath (h : r.Indexed)
    (hroute : belongsToPath path route = true)
    (hfirst : r.routes.filter (belongsToPath path) = []) (method : String) :
    (r.add route).resolve path method = resolveStatic [route] path method := by
  have hfixed : (r.add route).routes.filter (belongsToPath path) = [route] := by
    rw [routes_add, filter_concat, hfirst, if_pos hroute, List.nil_append]
  rw [(h.add route).resolve_fixed (by rw [hfixed]; exact List.cons_ne_nil _ _), hfixed]

/-- **Earlier routes are not shadowed by later ones.** If a route has been found for a request, be the
request well-formed or malformed, then adding any route leaves the result as it is, unless the new route
is without parameters, its text is the path, and no route before was such; then it decides by itself. -/
theorem resolve_add_of_isAnswered {routes : List (Route η)}
    (h : IsAnswered ((ofList routes).resolve path method)) (route : Route η) :
    (¬ (belongsToPath path route = true ∧ ∀ other ∈ routes, belongsToPath path other = false) →
      ((ofList routes).add route).resolve path method = (ofList routes).resolve path method) ∧
    (belongsToPath path route = true → (∀ other ∈ routes, belongsToPath path other = false) →
      ((ofList routes).add route).resolve path method = resolveStatic [route] path method) := by
  have hindexed := indexed_ofList routes
  constructor
  · intro hexcept
    refine hindexed.resolve_add h fun hroute hnone => hexcept ⟨hroute, ?_⟩
    rw [routes_ofList] at hnone
    exact filter_eq_nil.mp hnone
  · intro hroute hnone
    refine hindexed.resolve_add_of_belongsToPath hroute ?_ method
    rw [routes_ofList]
    exact filter_eq_nil.mpr hnone

/-- A route that matches a path keeps it from a later route that matches it, and loses it to a later
route for this one path. -/
theorem resolve_add_numberRoute : ∃ name number fixed,
    Route.build .builtin "/<name>" ["GET"] nameHandler {} = .ok name ∧
      Route.build .builtin "/<int:n>" ["GET"] numberHandler {} = .ok number ∧
      Route.build .builtin "/7" ["PUT"] fixedHandler {} = .ok fixed ∧
      IsAnswered ((ofList [name]).resolve "/7" "GET") ∧
      ((ofList [name]).add number).resolve "/7" "GET" = (ofList [name]).resolve "/7" "GET" ∧
      ((ofList [name]).add fixed).resolve "/7" "GET" = resolveStatic [fixed] "/7" "GET" := by
  obtain ⟨name, hname, hdynamic, hmethods, hpath⟩ :=
    exists_dynamicRoute "/<name>" ["GET"] nameHandler "/7" true (by decide +kernel)
  obtain ⟨number, hnumber, hdynamic', -, -⟩ :=
    exists_dynamicRoute "/<int:n>" ["GET"] numberHandler "/7" true (by decide +kernel)
  obtain ⟨fixed, hfixed, hstatic⟩ : ∃ route, Route.build .builtin "/7" ["PUT"] fixedHandler {} =
      .ok route ∧ (route.isStatic && route.matchesPath "/7") = true :=
    Route.exists_build_of_any (by decide +kernel)
  have h : IsAnswered ((ofList [name]).resolve "/7" "GET") := by
    rw [(indexed_ofList _).resolve_eq_scan, routes_ofList, isAnswered_scan]
    simp [contenders, belongsToPath_eq, hdynamic, hmethods, hpath]
  have hfree : ∀ other ∈ [name], belongsToPath "/7" other = false := by
    simp [belongsToPath_eq, hdynamic]
  have hkept := (resolve_add_of_isAnswered h number).1 (by simp [belongsToPath_eq, hdynamic'])
  have hlost := (resolve_add_of_isAnswered h fixed).2 (by rw [belongsToPath_eq, hstatic]) hfree
  exact ⟨name, number, fixed, hname, hnumber, hfixed, h, hkept, hlost⟩

/-! ## Paths that a route does not match -/

theorem belongsToPath_of_not_matchesPath (h : route.matchesPath path = false) :
    belongsToPath path route = false := by
  rw [belongsToPath_eq, h, Bool.and_false]

/-- The route is the first one with parameters that has the method, and the path is the text of no route
but is matched by a route with parameters. -/
structure Exposes (routes : List (Route η)) (route : Route η) (path method : String) : Prop where
  /-- The path is the text of no route without parameters. -/
  free : ∀ other ∈ routes, belongsToPath path other = false
  /-- The route has parameters, and the method. -/
  declares : belongsToMethod method route = true
  /-- No route before has both. -/
  first : ∀ other ∈ routes, belongsToMethod method other = false
  /-- A route with parameters matches the path. -/
  matched : ∃ other ∈ routes, other.isStatic = false ∧ other.matchesPath path = true

/-- A route that does not match a path takes no part in refusing it. -/
theorem refusal_add (hpath : route.matchesPath path = false) (method : String) :
    (r.add route).refusal path method = r.refusal path method := by
  rw [refusal_eq, refusal_eq, routes_add, List.filter_filter, List.filter_filter,
    filter_concat_of_neg (by simp [hpath])]

/-- Where no route has the path as its text, a route that does not match the path matters only if it is
the first one with parameters that has the method. -/
theorem Indexed.resolve_add_dynamic (h : r.Indexed) (hpath : route.matchesPath path = false)
    (hfixed : r.routes.filter (belongsToPath path) = []) (method : String) :
    (r.add route).resolve path method =
      if r.routes.filter (belongsToMethod method) = [] ∧ belongsToMethod method route = true then
        .error (r.refusal path method)
      else r.resolve path method := by
  have hother := belongsToPath_of_not_matchesPath hpath
  have hfixed' : (r.add route).routes.filter (belongsToPath path) = [] := by
    rw [routes_add, filter_concat_of_neg hother, hfixed]
  -- the new route answers nothing, but it may be the only one to be asked
  have hanswer := answer?_of_not_matchesPath hpath method
  have hfind : ((r.routes ++ [route]).filter (belongsToMethod method)).findSome?
        (answer? path method) =
      (r.routes.filter (belongsToMethod method)).findSome? (answer? path method) := by
    rw [filter_concat, List.findSome?_append]
    split <;> simp [hanswer]
  rw [(h.add route).resolve_dynamic hfixed', h.resolve_dynamic hfixed, refusal_add hpath,
    routes_add, hfind, filter_concat]
  by_cases hnone : r.routes.filter (belongsToMethod method) = []
  · by_cases hmethod : belongsToMethod method route = true
    · simp [hnone, hmethod]
    · simp [hnone, hmethod]
  · simp [hnone]

/-- Where the path is the text of a route, a route that does not match the path changes nothing. -/
theorem Indexed.resolve_add_fixed (h : r.Indexed) (hpath : route.matchesPath path = false)
    (hfixed : r.routes.filter (belongsToPath path) ≠ []) (method : String) :
    (r.add route).resolve path method = r.resolve path method := by
  have hroutes : (r.add route).routes.filter (belongsToPath path) =
      r.routes.filter (belongsToPath path) := by
    rw [routes_add, filter_concat_of_neg (belongsToPath_of_not_matchesPath hpath)]
  rw [(h.add route).resolve_fixed (hroutes ▸ hfixed), h.resolve_fixed hfixed, hroutes]

/-- A route that exposes a path has its request refused, which found nothing before. -/
theorem Exposes.resolve {routes : List (Route η)} (h : Exposes routes route path method)
    (hpath : route.matchesPath path = false) :
    (ofList routes).resolve path method = .error (.notFound path) ∧
      ((ofList routes).add route).resolve path method = .error (.methodNotAllowed path method
        (unionMethods ((routes.filter (!·.isStatic)).filter (·.matchesPath path)))) := by
  obtain ⟨hfree, hdeclares, hfirst, other, hother, hdynamic, hmatches⟩ := h
  have hindexed := indexed_ofList routes
  have hfixed : (ofList routes).routes.filter (belongsToPath path) = [] := by
    rwa [routes_ofList, filter_eq_nil]
  have hnone : routes.filter (belongsToMethod method) = [] := filter_eq_nil.mpr hfirst
  have hmatching : (routes.filter (!·.isStatic)).filter (·.matchesPath path) ≠ [] := by
    refine List.ne_nil_of_mem (a := other) (List.mem_filter.mpr ⟨?_, hmatches⟩)
    exact List.mem_filter.mpr ⟨hother, by simp [hdynamic]⟩
  constructor
  · rw [hindexed.resolve_dynamic hfixed, routes_ofList, if_pos hnone]
  · rw [hindexed.resolve_add_dynamic hpath hfixed, routes_ofList, if_pos ⟨hnone, hdeclares⟩,
      refusal_eq, routes_ofList, if_neg hmatching]

/-- A route that neither matches nor exposes a path changes nothing. -/
theorem resolve_add_of_not_exposes {routes : List (Route η)}
    (h : ¬ Exposes routes route path method) (hpath : route.matchesPath path = false) :
    ((ofList routes).add route).resolve path method = (ofList routes).resolve path method := by
  have hindexed := indexed_ofList routes
  by_cases hfixed : (ofList routes).routes.filter (belongsToPath path) = []
  · rw [hindexed.resolve_add_dynamic hpath hfixed]
    split
    · next hfirst =>
      -- the first route with the method exposes no path, so none is matched
      rw [hindexed.resolve_dynamic hfixed, if_pos hfirst.1, refusal_eq]
      rw [routes_ofList] at hfixed hfirst ⊢
      have hmatching : (routes.filter (!·.isStatic)).filter (·.matchesPath path) = [] := by
        refine filter_eq_nil.mpr fun other hother => Bool.eq_false_iff.mpr fun hmatches => h ?_
        obtain ⟨hmem, hdynamic⟩ := List.mem_filter.mp hother
        exact ⟨filter_eq_nil.mp hfixed, hfirst.2, filter_eq_nil.mp hfirst.1, other, hmem,
          by simpa using hdynamic, hmatches⟩
      rw [if_pos hmatching]
    · rfl
  · exact hindexed.resolve_add_fixed hpath hfixed method

/-- **A registration is local.** Adding a route that does not match a path changes no result for the
path, with one exception: if the path is the text of no route, the new route is the first one with
parameters that has the method, and routes with parameters match the path, then a request that found
nothing before is refused, and the methods of those routes are listed. -/
theorem resolve_add_of_not_matchesPath (h : route.matchesPath path = false)
    (routes : List (Route η)) (method : String) :
    (Exposes routes route path method →
      (ofList routes).resolve path method = .error (.notFound path) ∧
        ((ofList routes).add route).resolve path method = .error (.methodNotAllowed path method
          (unionMethods ((routes.filter (!·.isStatic)).filter (·.matchesPath path))))) ∧
    (¬ Exposes routes route path method →
      ((ofList routes).add route).resolve path method = (ofList routes).resolve path method) :=
  ⟨fun hexposes => hexposes.resolve h, fun hexposes => resolve_add_of_not_exposes hexposes h⟩

/-- A route for integers exposes a path of letters under its own method, and changes nothing under
another. -/
theorem resolve_add_unmatchedRoute : ∃ name number,
    Route.build .builtin "/<name>" ["GET"] nameHandler {} = .ok name ∧
      Route.build .builtin "/<int:n>" ["PUT"] numberHandler {} = .ok number ∧
      number.matchesPath "/b" = false ∧ Exposes [name] number "/b" "PUT" ∧
      ((ofList [name]).add number).resolve "/b" "PUT" =
        .error (.methodNotAllowed "/b" "PUT" (unionMethods [name])) ∧
      ¬ Exposes [name] number "/b" "GET" ∧
      ((ofList [name]).add number).resolve "/b" "GET" = (ofList [name]).resolve "/b" "GET" := by
  obtain ⟨name, hname, hdynamic, hmethods, hmatched⟩ :=
    exists_dynamicRoute "/<name>" ["GET"] nameHandler "/b" true (by decide +kernel)
  obtain ⟨number, hnumber, hdynamic', hmethods', hpath⟩ :=
    exists_dynamicRoute "/<int:n>" ["PUT"] numberHandler "/b" false (by decide +kernel)
  have hexposes : Exposes [name] number "/b" "PUT" := by
    refine ⟨?_, ?_, ?_, name, List.mem_cons_self, hdynamic, hmatched⟩
    · simp [belongsToPath_eq, hdynamic]
    · simp [belongsToMethod, hdynamic', hmethods']
    · simp [belongsToMethod, hmethods]
  have hother : ¬ Exposes [name] number "/b" "GET" := fun h => by
    have hdeclares := h.declares
    simp [belongsToMethod, hmethods'] at hdeclares
  have hrefused := ((resolve_add_of_not_matchesPath hpath [name] "PUT").1 hexposes).2
  have hkept := (resolve_add_of_not_matchesPath hpath [name] "GET").2 hother
  refine ⟨name, number, hname, hnumber, hpath, hexposes, ?_, hother, hkept⟩
  simpa [hdynamic, hmatched] using hrefused

end WebRouting.Router
