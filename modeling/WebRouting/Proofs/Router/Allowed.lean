import WebRouting.Handler.Basic
import WebRouting.Proofs.Route.Build
import WebRouting.Proofs.Router.Resolve

/-! # Allowed methods

A refused request is told which methods are allowed. `contenders` are the routes that can answer
requests for a path under some method: a request is answered exactly if a contender has its method
(`isAnswered_scan`), and a refusal lists the methods of all contenders (`scan_refused`). So the
allowed methods are exactly those that would be answered (`allowed_exact`). -/

namespace WebRouting

/-! ## Matching and decoding -/

namespace Route

variable {η : Type}

/-- Decoding a parameter fails with a malformed request only. -/
theorem decodeParam_error {rule : String} {c : Cursor} {param : String × Filter} {e : ResolveError}
    (h : decodeParam rule c param = .error e) : ∃ source, e = .badRequest rule param.1 source := by
  rw [decodeParam] at h
  cases hd : param.2.decode (c.captured param.1) with
  | ok v => rw [hd] at h; cases h
  | error source =>
    rw [hd] at h
    cases h
    exact ⟨source, rfl⟩

/-- Decoding all parameters fails with a malformed request only. -/
theorem mapM_decodeParam_error {rule : String} {c : Cursor} {params : List (String × Filter)}
    {e : ResolveError} (h : params.mapM (decodeParam rule c) = .error e) :
    ∃ name source, e = .badRequest rule name source := by
  induction params with
  | nil => cases h
  | cons param params ih =>
    rw [List.mapM_cons] at h
    -- the first parameter that fails is the one that is named
    cases hv : decodeParam rule c param with
    | error e' =>
      rw [hv] at h
      cases h
      obtain ⟨source, rfl⟩ := decodeParam_error hv
      exact ⟨param.1, source, rfl⟩
    | ok v =>
      rw [hv] at h
      cases hvs : params.mapM (decodeParam rule c) with
      | error e' =>
        rw [hvs] at h
        cases h
        exact ih hvs
      | ok vs => rw [hvs] at h; cases h

/-- A route that matches but gives no parameters calls the request malformed. -/
theorem match?_error {route : Route η} {path method : String} {e : ResolveError}
    (h : route.match? path method = some (.error e)) :
    ∃ name source, e = .badRequest route.rule name source := by
  rw [match?] at h
  split at h
  · cases h
  · cases hm : route.matcher with
    | exact text =>
      rw [hm] at h
      by_cases ht : text = path <;> simp [ht] at h
    | regex source expression =>
      rw [hm] at h
      obtain ⟨last, -, hlast⟩ := Option.map_eq_some_iff.mp h
      exact mapM_decodeParam_error hlast

end Route

namespace Router

variable {η : Type}

/-! ## Answered requests -/

/-- Whether a route has been found for a request, be the request well-formed or malformed. -/
def IsAnswered : Except ResolveError (Resolved η) → Prop
  | .ok _ => True
  | .error (.badRequest ..) => True
  | .error (.notFound _) => False
  | .error (.methodNotAllowed ..) => False

/-- A route that matches answers a request: it gives parameters or calls the request malformed. -/
theorem isAnswered_of_answer? {route : Route η} {path method : String}
    {answer : Except ResolveError (Resolved η)} (h : answer? path method route = some answer) :
    IsAnswered answer := by
  rw [answer?] at h
  cases hmatch : route.match? path method with
  | none => rw [hmatch] at h; cases h
  | some result =>
    rw [hmatch] at h
    cases result with
    | ok params => cases h; trivial
    | error e =>
      cases h
      obtain ⟨name, source, rfl⟩ := Route.match?_error hmatch
      trivial

theorem isSome_answer? (path method : String) (route : Route η) :
    (answer? path method route).isSome = (route.allows method && route.matchesPath path) := by
  rw [← Route.isSome_match?, answer?]
  rcases route.match? path method with _ | _ | _ <;> rfl

/-- A route that does not match a path has no answer to requests for it. -/
theorem answer?_of_not_matchesPath {route : Route η} {path : String}
    (h : route.matchesPath path = false) (method : String) :
    answer? path method route = none := by
  have hsome := isSome_answer? path method route
  rwa [h, Bool.and_false, Option.isSome_eq_false_iff, Option.isNone_iff_eq_none] at hsome

/-- A route without parameters belongs to the path that it matches. -/
theorem belongsToPath_eq (path : String) (route : Route η) :
    belongsToPath path route = (route.isStatic && route.matchesPath path) := by
  cases hm : route.matcher with
  | exact text =>
    simp [belongsToPath, Route.isStatic, Route.staticKey?, Route.pattern, Matcher.pattern,
      Route.matchesPath, hm, beq_eq_decide]
  | regex source expression => simp [belongsToPath, Route.isStatic, Route.staticKey?, hm]

/-- The routes that answer requests for a path under some method: those without parameters whose
text is the path, and if there are none, those that match it. -/
def contenders (routes : List (Route η)) (path : String) : List (Route η) :=
  if routes.filter (belongsToPath path) ≠ [] then routes.filter (belongsToPath path)
  else (routes.filter (!·.isStatic)).filter (·.matchesPath path)

/-- A route with a method that answers the path is among the routes that match it. -/
theorem findSome?_answer? {routes : List (Route η)} {path method : String}
    {answer : Except ResolveError (Resolved η)}
    (h : (routes.filter (·.allows method)).findSome? (answer? path method) = some answer) :
    IsAnswered answer ∧ (routes.filter (·.matchesPath path)).any (·.allows method) = true := by
  obtain ⟨route, hroute, hanswer⟩ := List.exists_of_findSome?_eq_some h
  obtain ⟨hmem, hallows⟩ := List.mem_filter.mp hroute
  -- whatever the answer is, the route matched the path
  have hsome : (answer? path method route).isSome = true := by rw [hanswer]; rfl
  rw [isSome_answer?, Bool.and_eq_true] at hsome
  refine ⟨isAnswered_of_answer? hanswer, List.any_eq_true.mpr ⟨route, ?_, hallows⟩⟩
  exact List.mem_filter.mpr ⟨hmem, hsome.2⟩

/-- If no route with a method answers the path, none of the routes that match it has the method. -/
theorem findSome?_answer?_none {routes : List (Route η)} {path method : String}
    (h : (routes.filter (·.allows method)).findSome? (answer? path method) = none) :
    (routes.filter (·.matchesPath path)).any (·.allows method) = false := by
  refine List.any_eq_false.mpr fun route hroute hallows => ?_
  obtain ⟨hmem, hmatches⟩ := List.mem_filter.mp hroute
  have hnone := List.findSome?_eq_none_iff.mp h route (List.mem_filter.mpr ⟨hmem, hallows⟩)
  have hsome := isSome_answer? path method route
  rw [hnone, hallows, hmatches] at hsome
  cases hsome

/-- What a list of routes answers, by its contenders: one with the method answers the request;
without one, all of them are listed in a refusal, unless there are none or no route with parameters
has the method. -/
theorem scan_cases (routes : List (Route η)) (path method : String) :
    (IsAnswered (scan routes path method) ∧
      (contenders routes path).any (·.allows method) = true) ∨
    ((contenders routes path).any (·.allows method) = false ∧
      (scan routes path method = .error (.notFound path) ∨
        contenders routes path ≠ [] ∧ scan routes path method =
          .error (.methodNotAllowed path method (unionMethods (contenders routes path))))) := by
  rw [scan, contenders]
  set fixed := routes.filter (belongsToPath path)
  set dynamic := routes.filter (!·.isStatic)
  -- routes without parameters are contenders by themselves
  by_cases hfixed : fixed ≠ []
  · rw [if_pos hfixed, if_pos hfixed]
    cases hfind : fixed.find? (·.allows method) with
    | some route =>
      have hallows := List.find?_some hfind
      exact .inl ⟨trivial, List.any_eq_true.mpr ⟨route, List.mem_of_find?_eq_some hfind, hallows⟩⟩
    | none =>
      have hnone := List.find?_eq_none.mp hfind
      exact .inr ⟨List.any_eq_false.mpr hnone, .inr ⟨hfixed, rfl⟩⟩
  · rw [if_neg hfixed, if_neg hfixed]
    -- the others have to match, and are asked only if one of them has the method
    by_cases hall : (dynamic.all fun route => !route.allows method) = true
    · -- no route with parameters has the method, so no contender has it either
      have hnone : (dynamic.filter (·.matchesPath path)).any (·.allows method) = false := by
        refine List.any_eq_false.mpr fun route hroute hallows => ?_
        have hlacks := List.all_eq_true.mp hall route (List.mem_filter.mp hroute).1
        rw [hallows] at hlacks
        cases hlacks
      exact .inr ⟨hnone, .inl (if_pos hall)⟩
    · rw [if_neg hall]
      cases hfind : (dynamic.filter (·.allows method)).findSome? (answer? path method) with
      | some answer => exact .inl (findSome?_answer? hfind)
      | none =>
        refine .inr ⟨findSome?_answer?_none hfind, ?_⟩
        by_cases hmatching : dynamic.filter (·.matchesPath path) = []
        · exact .inl (if_pos hmatching)
        · exact .inr ⟨hmatching, if_neg hmatching⟩

/-- A request is answered exactly if a contender has its method. -/
theorem isAnswered_scan (routes : List (Route η)) (path method : String) :
    IsAnswered (scan routes path method) ↔
      (contenders routes path).any (·.allows method) = true := by
  rcases scan_cases routes path method with ⟨h, hany⟩ | ⟨hany, h | ⟨-, h⟩⟩
  · exact iff_of_true h hany
  · rw [h, hany]
    exact iff_of_false id Bool.false_ne_true
  · rw [h, hany]
    exact iff_of_false id Bool.false_ne_true

/-- A refusal lists the methods of all contenders, of which there is one and none has the method. -/
theorem scan_refused {routes : List (Route η)} {path method path' method' : String}
    {allowed : NameSet}
    (h : scan routes path method = .error (.methodNotAllowed path' method' allowed)) :
    path' = path ∧ method' = method ∧ allowed = unionMethods (contenders routes path) ∧
      contenders routes path ≠ [] ∧ (contenders routes path).any (·.allows method) = false := by
  rcases scan_cases routes path method with ⟨hanswered, -⟩ | ⟨hany, hscan | ⟨hne, hscan⟩⟩
  · rw [h] at hanswered
    exact hanswered.elim
  · rw [h] at hscan
    cases hscan
  · rw [h] at hscan
    cases hscan
    exact ⟨rfl, rfl, rfl, hne, hany⟩

/-! ## Refusals -/

/-- **A refusal is exact.** The methods listed for a refused request are at least one, not its own,
and exactly those with which the path would be answered, well-formed or malformed. So all refusals
for a path list the same methods. -/
theorem allowed_exact (routes : List (Route η)) {path method path' method' : String}
    {allowed : NameSet}
    (h : (ofList routes).resolve path method = .error (.methodNotAllowed path' method' allowed)) :
    (path' = path ∧ method' = method) ∧ allowed.isEmpty = false ∧
      allowed.contains method = false ∧
      (∀ other, allowed.contains other = true ↔
        IsAnswered ((ofList routes).resolve path other)) ∧
      ∀ other path'' other' allowed', (ofList routes).resolve path other =
        .error (.methodNotAllowed path'' other' allowed') → allowed' = allowed := by
  -- a router resolves as its routes are scanned, whatever the method
  have hscan : ∀ method, (ofList routes).resolve path method = scan routes path method := by
    intro method
    rw [(indexed_ofList routes).resolve_eq_scan, routes_ofList]
  rw [hscan] at h
  obtain ⟨hpath, hmethod, rfl, hne, hany⟩ := scan_refused h
  refine ⟨⟨hpath, hmethod⟩, ?_, ?_, fun other => ?_, fun other path'' other' allowed' h' => ?_⟩
  · exact Bool.eq_false_iff.mpr ((isEmpty_unionMethods _).not.mpr hne)
  · rw [contains_unionMethods, hany]
  · rw [hscan, isAnswered_scan, contains_unionMethods]
  · rw [hscan] at h'
    exact (scan_refused h').2.2.1

/-- A handler for a text. -/
def nameHandler : Handler := .typed "name" [.string] fun _ (name, ()) => .ok name

/-- A handler for an integer. -/
def numberHandler : Handler := .typed "number" [.int64] fun _ (n, ()) => .ok (Value.int n).text

/-- A route with parameters that matches a path or does not, as can be checked. -/
theorem exists_dynamicRoute (rule : String) (methods : List String) (handler : Handler) (path : String)
    (matched : Bool) (h : (Route.build .builtin rule methods handler {}).toOption.any
      (fun route => !route.isStatic && route.matchesPath path == matched) = true) :
    ∃ route, Route.build .builtin rule methods handler {} = .ok route ∧ route.isStatic = false ∧
      (∀ method, route.allows method = methods.contains method) ∧
      route.matchesPath path = matched := by
  obtain ⟨route, hroute, hcheck⟩ := Route.exists_build_of_any h
  rw [Bool.and_eq_true, Bool.not_eq_true', beq_iff_eq] at hcheck
  exact ⟨route, hroute, hcheck.1, (Route.built hroute).allows, hcheck.2⟩

/-- A refusal that lists the methods of two routes, and not that of a third one that does not match. -/
theorem allowed_exact_numberRoutes : ∃ name number slashed,
    Route.build .builtin "/<name>" ["GET"] nameHandler {} = .ok name ∧
      Route.build .builtin "/<int:n>" ["PUT"] numberHandler {} = .ok number ∧
      Route.build .builtin "/<int:n>/" ["POST"] numberHandler {} = .ok slashed ∧
      (ofList [name, number, slashed]).resolve "/7" "POST" =
        .error (.methodNotAllowed "/7" "POST" (unionMethods [name, number])) ∧
      ∀ other, (unionMethods [name, number]).contains other = true ↔
        IsAnswered ((ofList [name, number, slashed]).resolve "/7" other) := by
  obtain ⟨name, hname, hdynamic, hmethods, hpath⟩ :=
    exists_dynamicRoute "/<name>" ["GET"] nameHandler "/7" true (by decide +kernel)
  obtain ⟨number, hnumber, hdynamic', hmethods', hpath'⟩ :=
    exists_dynamicRoute "/<int:n>" ["PUT"] numberHandler "/7" true (by decide +kernel)
  obtain ⟨slashed, hslashed, hdynamic'', hmethods'', hpath''⟩ :=
    exists_dynamicRoute "/<int:n>/" ["POST"] numberHandler "/7" false (by decide +kernel)
  have h : (ofList [name, number, slashed]).resolve "/7" "POST" =
      .error (.methodNotAllowed "/7" "POST" (unionMethods [name, number])) := by
    rw [(indexed_ofList _).resolve_eq_scan, routes_ofList, scan]
    simp [belongsToPath_eq, answer?_of_not_matchesPath hpath'', *]
  exact ⟨name, number, slashed, hname, hnumber, hslashed, h, (allowed_exact _ h).2.2.2.1⟩

end Router

end WebRouting
