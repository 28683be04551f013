import WebRouting.Proofs.Router.Allowed

/-! # The order of registrations

Routes compete only with routes that an index lists under the same key. `Reordered` relates two lists of
the same routes that list every such group in the same order. The two routers store different positions,
but they answer alike (`Reordered.scan_eq`): the routes that are tried are the same lists, and the
methods of a refusal are those of the same routes in another order. Neighbours that no index lists under
one key may change places (`Reordered.swap`). -/

namespace WebRouting.Router

variable {η : Type} {routes routes' : List (Route η)}

/-! ## Unions in another order -/

/-- The union of method sets does not depend on the order of the routes. -/
theorem unionMethods_perm (h : routes.Perm routes') : unionMethods routes = unionMethods routes' := by
  refine Std.ExtTreeSet.ext_contains fun method => ?_
  rw [contains_unionMethods, contains_unionMethods, Bool.eq_iff_iff, List.any_eq_true,
    List.any_eq_true]
  exact exists_congr fun route => and_congr_left fun _ => h.mem_iff

/-! ## Reordered registrations -/

/-- Neighbours that do not both have a property may change places in the list of those that have it. -/
theorem filter_swap {p : Route η → Bool} {r s : Route η} (h : p r = true → p s = false)
    (before after : List (Route η)) :
    (before ++ r :: s :: after).filter p = (before ++ s :: r :: after).filter p := by
  rw [List.filter_append, List.filter_append]
  congr 1
  by_cases hr : p r = true
  · rw [List.filter_cons_of_pos hr, List.filter_cons_of_neg (by simp [h hr]),
      List.filter_cons_of_neg (by simp [h hr]), List.filter_cons_of_pos hr]
  · rw [List.filter_cons_of_neg hr, List.filter_cons, List.filter_cons, List.filter_cons_of_neg hr]

/-- The same routes, in orders that agree wherever routes compete: among the routes without parameters
for a path, and among the routes with parameters for a method. -/
structure Reordered (routes routes' : List (Route η)) : Prop where
  /-- The routes are the same. -/
  perm : routes.Perm routes'
  /-- The routes without parameters for a path come in the same order. -/
  static (path : String) : routes.filter (belongsToPath path) = routes'.filter (belongsToPath path)
  /-- The routes with parameters for a method come in the same order. -/
  dynamic (method : String) :
    routes.filter (belongsToMethod method) = routes'.filter (belongsToMethod method)

namespace Reordered

/-- The routes with parameters that are tried for a method are the same. -/
theorem candidates_eq (h : Reordered routes routes') (method : String) :
    (routes.filter fun route => !route.isStatic).filter (·.allows method) =
      (routes'.filter fun route => !route.isStatic).filter (·.allows method) := by
  rw [← filter_belongsToMethod, ← filter_belongsToMethod, h.dynamic]

/-- A method that no route with parameters has is the same method for both lists. -/
theorem all_lack (h : Reordered routes routes') (method : String) :
    ((routes.filter fun route => !route.isStatic).all fun route => !route.allows method) =
      ((routes'.filter fun route => !route.isStatic).all fun route => !route.allows method) := by
  rw [Bool.eq_iff_iff, ← filter_allows_eq_nil, ← filter_allows_eq_nil, h.candidates_eq]

/-- The routes with parameters that match a path are the same in some order. -/
theorem matching_perm (h : Reordered routes routes') (path : String) :
    ((routes.filter fun route => !route.isStatic).filter (·.matchesPath path)).Perm
      ((routes'.filter fun route => !route.isStatic).filter (·.matchesPath path)) :=
  (h.perm.filter _).filter _

/-- Reordered routes answer every request alike. -/
theorem scan_eq (h : Reordered routes routes') (path method : String) :
    scan routes path method = scan routes' path method := by
  have hunion := unionMethods_perm (h.matching_perm path)
  have hnone : (routes.filter fun route => !route.isStatic).filter (·.matchesPath path) = [] ↔
      (routes'.filter fun route => !route.isStatic).filter (·.matchesPath path) = [] := by
    rw [← List.perm_nil, ← List.perm_nil]
    exact ⟨(h.matching_perm path).symm.trans, (h.matching_perm path).trans⟩
  simp only [scan, h.static, h.candidates_eq, h.all_lack, hunion, hnone]

/-- Neighbours may change places if one has parameters and the other has none, or if both have
parameters and no method in common. -/
theorem swap {r s : Route η}
    (h : r.isStatic ≠ s.isStatic ∨
      r.isStatic = false ∧ ∀ method, r.allows method = true → s.allows method = false)
    (before after : List (Route η)) :
    Reordered (before ++ r :: s :: after) (before ++ s :: r :: after) where
  perm := (List.Perm.swap s r after).append_left before
  static path := by
    refine filter_swap (fun hr => ?_) before after
    simp only [belongsToPath, Bool.and_eq_true] at hr
    -- a route for a path has no parameters, so the other one has some
    have hs : s.isStatic = false := by
      rcases h with hne | ⟨hdynamic, -⟩
      · simpa [hr.1] using hne
      · simp [hdynamic] at hr
    simp [belongsToPath, hs]
  dynamic method := by
    refine filter_swap (fun hr => ?_) before after
    simp only [belongsToMethod, Bool.and_eq_true, Bool.not_eq_true'] at hr
    rcases h with hne | ⟨-, hdisjoint⟩
    · have hs : s.isStatic = true := by simpa [hr.1] using hne
      simp [belongsToMethod, hs]
    · simp [belongsToMethod, hdisjoint method hr.2]

end Reordered

/-- **The order of registrations matters only where routes compete.** Routers made of the same routes
answer every request alike if the orders agree among the routes without parameters for each path and
among the routes with parameters for each method. So neighbours may change places if only one of them
has parameters, or if both have parameters and no method in common. -/
theorem resolve_reordered :
    (∀ routes routes' : List (Route η), Reordered routes routes' → ∀ path method,
      (ofList routes).resolve path method = (ofList routes').resolve path method) ∧
    ∀ (before after : List (Route η)) (r s : Route η),
      (r.isStatic ≠ s.isStatic ∨
        r.isStatic = false ∧ ∀ method, r.allows method = true → s.allows method = false) →
      ∀ path method, (ofList (before ++ r :: s :: after)).resolve path method =
        (ofList (before ++ s :: r :: after)).resolve path method := by
  have hreordered : ∀ routes routes' : List (Route η), Reordered routes routes' → ∀ path method,
      (ofList routes).resolve path method = (ofList routes').resolve path method := by
    intro routes routes' h path method
    rw [(indexed_ofList routes).resolve_eq_scan, (indexed_ofList routes').resolve_eq_scan,
      routes_ofList, routes_ofList, h.scan_eq]
  exact ⟨hreordered, fun before after r s h => hreordered _ _ (.swap h before after)⟩

/-- A handler without parameters. -/
def fixedHandler : Handler := .typed "fixed" [] fun _ _ => .ok "fixed"

/-- A route for one path and a route that matches it change places, and so do two routes that match it
under different methods. -/
theorem resolve_reordered_numberRoutes : ∃ fixed name number,
    Route.build .builtin "/7" ["GET"] fixedHandler {} = .ok fixed ∧
      Route.build .builtin "/<name>" ["GET"] nameHandler {} = .ok name ∧
      Route.build .builtin "/<int:n>" ["PUT"] numberHandler {} = .ok number ∧
      (Reordered [fixed, name] [name, fixed] ∧ ∀ path method,
        (ofList [fixed, name]).resolve path method = (ofList [name, fixed]).resolve path method) ∧
      (name.isStatic = false ∧
        ∀ method, name.allows method = true → number.allows method = false) ∧
      ∀ path method,
        (ofList [name, number]).resolve path method = (ofList [number, name]).resolve path method := by
  obtain ⟨fixed, hfixed, hstatic⟩ : ∃ route, Route.build .builtin "/7" ["GET"] fixedHandler {} =
      .ok route ∧ route.isStatic = true := Route.exists_build_of_any (by decide +kernel)
  obtain ⟨name, hname, hdynamic, hmethods, -⟩ :=
    exists_dynamicRoute "/<name>" ["GET"] nameHandler "/7" true (by decide +kernel)
  obtain ⟨number, hnumber, -, hmethods', -⟩ :=
    exists_dynamicRoute "/<int:n>" ["PUT"] numberHandler "/7" true (by decide +kernel)
  have hreordered : Reordered [fixed, name] [name, fixed] :=
    .swap (.inl (by rw [hstatic, hdynamic]; decide)) [] []
  have hdisjoint : name.isStatic = false ∧
      ∀ method, name.allows method = true → number.allows method = false := by
    refine ⟨hdynamic, fun method h => ?_⟩
    obtain rfl : method = "GET" := by simpa [hmethods] using h
    rw [hmethods']
    decide
  exact ⟨fixed, name, number, hfixed, hname, hnumber,
    ⟨hreordered, resolve_reordered.1 _ _ hreordered⟩, hdisjoint,
    resolve_reordered.2 [] [] _ _ (.inr hdisjoint)⟩

end WebRouting.Router
