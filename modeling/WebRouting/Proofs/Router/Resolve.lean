import WebRouting.Proofs.Router.Index

/-! # Resolving without indexes

`Router.scan` answers a request from the list of routes alone. A router made by adding routes gives
the same answers (`resolve_ofList`): its indexes are an optimisation and nothing else. -/

namespace WebRouting.Router

variable {η : Type}

/-! ## The answer read off a list of routes -/

/-- The answer of a route to a request, if it has one: the decoded parameters or the error of
decoding them. -/
def answer? (path method : String) (route : Route η) :
    Option (Except ResolveError (Resolved η)) :=
  match route.match? path method with
  | none => none
  | some (.ok params) => some (.ok ⟨route, params⟩)
  | some (.error e) => some (.error e)

/-- The answer to a request, read off a list of routes.

Routes without parameters whose text is the path decide alone, if there are any. Otherwise a method
that no other route has finds nothing; the first route with the method that matches answers; and
routes that match for other methods only turn the failure into a refusal. -/
def scan (routes : List (Route η)) (path method : String) : Except ResolveError (Resolved η) :=
  let fixed := routes.filter (belongsToPath path)
  let dynamic := routes.filter fun route => !route.isStatic
  if fixed ≠ [] then
    match fixed.find? (·.allows method) with
    | some route => .ok ⟨route, []⟩
    | none => .error (.methodNotAllowed path method (unionMethods fixed))
  else if dynamic.all fun route => !route.allows method then .error (.notFound path)
  else
    match (dynamic.filter (·.allows method)).findSome? (answer? path method) with
    | some answer => answer
    | none =>
      let matching := dynamic.filter (·.matchesPath path)
      if matching = [] then .error (.notFound path)
      else .error (.methodNotAllowed path method (unionMethods matching))

/-! ## Unions of method sets -/

/-- A method is in the union of the method sets of routes if a route has it. -/
theorem contains_unionMethods (routes : List (Route η)) (method : String) :
    (unionMethods routes).contains method = routes.any (·.allows method) := by
  rw [unionMethods, NameSet.contains_ofNames, Bool.eq_iff_iff]
  simp [MethodSet.mem_toList, Route.allows]

/-- Every route has a method. -/
theorem exists_allows (route : Route η) : ∃ method, route.allows method = true := by
  have hne : route.methods.toList ≠ [] := fun h => by
    have hempty := route.methods.nonempty
    rw [← Std.ExtTreeSet.isEmpty_toList] at hempty
    exact Bool.noConfusion ((List.isEmpty_iff.mpr h).symm.trans hempty)
  obtain ⟨method, hmethod⟩ := List.exists_mem_of_ne_nil _ hne
  exact ⟨method, MethodSet.mem_toList.mp hmethod⟩

/-- The union of the method sets of routes has no method only if there is no route. -/
theorem isEmpty_unionMethods (routes : List (Route η)) :
    (unionMethods routes).isEmpty = true ↔ routes = [] := by
  constructor
  · intro h
    refine List.eq_nil_iff_forall_not_mem.mpr fun route hroute => ?_
    obtain ⟨method, hmethod⟩ := exists_allows route
    have hunion : (unionMethods routes).contains method = true := by
      rw [contains_unionMethods]
      exact List.any_eq_true.mpr ⟨route, hroute, hmethod⟩
    rw [Std.ExtTreeSet.isEmpty_iff.mp h] at hunion
    simp at hunion
  · rintro rfl
    rfl

/-! ## Indexes are invisible -/

theorem attempt?_eq_answer? (path method : String) :
    attempt? path method = answer? (η := η) path method := by
  funext route
  rw [attempt?, answer?]
  rcases route.match? path method with _ | _ | _ <;> rfl

/-- The refusal of a router that has only the routes of a list. -/
theorem refusal_eq (r : Router η) (path method : String) :
    r.refusal path method =
      if (r.routes.filter (!·.isStatic)).filter (·.matchesPath path) = [] then .notFound path
      else .methodNotAllowed path method
        (unionMethods ((r.routes.filter (!·.isStatic)).filter (·.matchesPath path))) := by
  rw [refusal, dynamicRoutes]
  simp only [isEmpty_unionMethods]

/-- The routes that an index has under a method are those with parameters that have it. -/
theorem filter_belongsToMethod (routes : List (Route η)) (method : String) :
    routes.filter (belongsToMethod method) =
      (routes.filter fun route => !route.isStatic).filter (·.allows method) := by
  rw [List.filter_filter]
  exact List.filter_congr fun route _ => Bool.and_comm _ _

/-- A path with routes without parameters is decided by them. -/
theorem Indexed.resolve_fixed {r : Router η} (h : r.Indexed) {path : String}
    (hfixed : r.routes.filter (belongsToPath path) ≠ []) (method : String) :
    r.resolve path method = resolveStatic (r.routes.filter (belongsToPath path)) path method := by
  have hindex := map_routesAt_listed r (belongsToPath path)
  rw [← h.static, if_neg hfixed] at hindex
  -- there is such a route, so the path is a key of the index
  obtain ⟨positions, hpositions, hroutes⟩ := Option.map_eq_some_iff.mp hindex
  simp only [resolve, hpositions, hroutes]

/-- A path without such routes is decided by the routes that have parameters. -/
theorem Indexed.resolve_dynamic {r : Router η} (h : r.Indexed) {path : String}
    (hfixed : r.routes.filter (belongsToPath path) = []) (method : String) :
    r.resolve path method =
      if r.routes.filter (belongsToMethod method) = [] then .error (.notFound path)
      else
        ((r.routes.filter (belongsToMethod method)).findSome? (answer? path method)).getD
          (.error (r.refusal path method)) := by
  have hpath := map_routesAt_listed r (belongsToPath path)
  -- the path is no key, and the method is one if a route has it
  rw [← h.static, if_pos hfixed, Option.map_eq_none_iff] at hpath
  have hindex := map_routesAt_listed r (belongsToMethod method)
  rw [← h.dynamic] at hindex
  by_cases hnone : r.routes.filter (belongsToMethod method) = []
  · rw [if_pos hnone, Option.map_eq_none_iff] at hindex
    simp only [resolve, hpath, hindex, if_pos hnone]
  · rw [if_neg hnone] at hindex
    obtain ⟨positions, hpositions, hroutes⟩ := Option.map_eq_some_iff.mp hindex
    simp only [resolve, hpath, hpositions, hroutes, attempt?_eq_answer?, if_neg hnone]

/-- If a route with parameters answers a request for a path without other routes, then what is resolved is
the answer of one of them. -/
theorem Indexed.exists_answer?_eq {r : Router η} (h : r.Indexed) {path method : String}
    (hfixed : r.routes.filter (belongsToPath path) = []) {route : Route η}
    (hroute : route ∈ r.routes.filter (belongsToMethod method))
    (hanswer : (answer? path method route).isSome = true) :
    ∃ other ∈ r.routes.filter (belongsToMethod method),
      answer? path method other = some (r.resolve path method) := by
  have hne : r.routes.filter (belongsToMethod method) ≠ [] := List.ne_nil_of_mem hroute
  rw [h.resolve_dynamic hfixed, if_neg hne]
  cases hfind : (r.routes.filter (belongsToMethod method)).findSome? (answer? path method) with
  | some answer =>
    obtain ⟨other, hother, hanswer⟩ := List.exists_of_findSome?_eq_some hfind
    exact ⟨other, hother, hanswer⟩
  | none =>
    rw [List.findSome?_eq_none_iff.mp hfind route hroute] at hanswer
    cases hanswer

/-- If no route answers a request for a path without other routes, it is refused, or the path is not found
because no route with parameters has the method. -/
theorem Indexed.resolve_of_unanswered {r : Router η} (h : r.Indexed) {path method : String}
    (hfixed : r.routes.filter (belongsToPath path) = [])
    (hnone : ∀ route ∈ r.routes.filter (belongsToMethod method), answer? path method route = none) :
    r.resolve path method =
      if r.routes.filter (belongsToMethod method) = [] then .error (.notFound path)
      else .error (r.refusal path method) := by
  rw [h.resolve_dynamic hfixed, List.findSome?_eq_none_iff.mpr hnone]
  rfl

/-- No route of a list has a method exactly when all of them lack it. -/
theorem filter_allows_eq_nil (routes : List (Route η)) (method : String) :
    routes.filter (·.allows method) = [] ↔ (routes.all fun route => !route.allows method) = true := by
  simp only [List.filter_eq_nil_iff, List.all_eq_true, Bool.not_eq_true, Bool.not_eq_true']

/-- A router whose indexes are exact resolves a request as the list of its routes does. -/
theorem Indexed.resolve_eq_scan {r : Router η} (h : r.Indexed) (path method : String) :
    r.resolve path method = scan r.routes path method := by
  by_cases hfixed : r.routes.filter (belongsToPath path) = []
  · rw [h.resolve_dynamic hfixed, filter_belongsToMethod, refusal_eq, scan,
      if_neg (not_not.mpr hfixed)]
    -- what is left is the same test written in two ways
    set dynamic := r.routes.filter fun route => !route.isStatic
    have hall := filter_allows_eq_nil dynamic method
    by_cases hnone : dynamic.filter (·.allows method) = []
    · rw [if_pos hnone, if_pos (hall.mp hnone)]
    · rw [if_neg hnone, if_neg (hall.not.mp hnone)]
      cases (dynamic.filter (·.allows method)).findSome? (answer? path method) with
      | some answer => rfl
      | none => exact apply_ite Except.error _ _ _
  · rw [h.resolve_fixed hfixed, scan, if_pos hfixed]
    rfl

/-! ## Routes that are found -/

/-- A route without parameters whose text is the path matches it. -/
theorem match?_of_belongsToPath {route : Route η} {path method : String}
    (hpath : belongsToPath path route = true) (hmethod : route.allows method = true) :
    route.match? path method = some (.ok []) := by
  cases hm : route.matcher with
  | exact text =>
    have htext : text = path := by
      simpa [belongsToPath, Route.isStatic, Route.staticKey?, Route.pattern, Matcher.pattern, hm]
        using hpath
    simp [Route.match?, hmethod, hm, htext]
  | regex source expression => simp [belongsToPath, Route.isStatic, Route.staticKey?, hm] at hpath

/-- A route that answers with values matches the request and gives these values. -/
theorem answer?_eq_ok {route : Route η} {path method : String} {found : Resolved η}
    (h : answer? path method route = some (.ok found)) :
    found.route = route ∧ route.match? path method = some (.ok found.params) := by
  rw [answer?] at h
  rcases hmatch : route.match? path method with _ | e | params <;> rw [hmatch] at h <;> cases h
  exact ⟨rfl, rfl⟩

/-- A route that is found is in the list and matches the request, with the values that are given. -/
theorem scan_eq_ok {routes : List (Route η)} {path method : String} {found : Resolved η}
    (h : scan routes path method = .ok found) :
    found.route ∈ routes ∧ found.route.match? path method = some (.ok found.params) := by
  rw [scan] at h
  dsimp only at h
  split at h
  · -- a route without parameters
    cases hfind : (routes.filter (belongsToPath path)).find? (·.allows method) with
    | none => rw [hfind] at h; cases h
    | some route =>
      rw [hfind] at h
      cases h
      obtain ⟨hmem, hpath⟩ := List.mem_filter.mp (List.mem_of_find?_eq_some hfind)
      have hmethod := List.find?_some hfind
      exact ⟨hmem, match?_of_belongsToPath hpath hmethod⟩
  · split at h
    · cases h
    · split at h
      · -- a route with parameters that matches
        rename_i answer hfind
        subst h
        obtain ⟨route, hroute, hanswer⟩ := List.exists_of_findSome?_eq_some hfind
        obtain ⟨rfl, hmatch⟩ := answer?_eq_ok hanswer
        exact ⟨(List.mem_filter.mp (List.mem_filter.mp hroute).1).1, hmatch⟩
      · split at h <;> cases h

/-! ## Routers made by adding routes -/

/-- **The indexes of a router are an optimisation and nothing else.** A router made by adding routes
keeps them in order, its indexes list the position of every route exactly where it belongs, and it
resolves every request as the list of the routes does. -/
theorem resolve_ofList (routes : List (Route η)) :
    (ofList routes).routes = routes ∧ (ofList routes).Indexed ∧
      ∀ path method, (ofList routes).resolve path method = scan routes path method := by
  refine ⟨routes_ofList routes, indexed_ofList routes, fun path method => ?_⟩
  rw [(indexed_ofList routes).resolve_eq_scan, routes_ofList]

end WebRouting.Router
