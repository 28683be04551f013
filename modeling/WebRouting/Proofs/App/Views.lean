import Mathlib.Data.List.Forall2
import WebRouting.Demo
import WebRouting.Proofs.App.Flatten
import WebRouting.Proofs.Handler.Faults
import WebRouting.Proofs.Route.Build
import WebRouting.Proofs.Router.Later

/-! # Requests for views

What a view answers to the methods for which it has no handler. The view itself refuses them, but it is
asked only for its own methods: the refusal is the router's. A path that one route alone matches is
refused under other methods if the route has no parameters (`Router.Indexed.resolve_of_only_static`), or
if some other route with parameters has the method; otherwise there is no such path
(`Router.Indexed.resolve_of_only_dynamic`). A view that is registered has one route, under its methods,
behind the routes of the items before it (`App.exists_view_route`). -/

namespace WebRouting

/-! ## Paths that one route matches -/

namespace Router

variable {η : Type} {r : Router η} {before after : List (Route η)} {route : Route η}
  {path method : String}

/-- Of the routes with a property that only one of them can have, there is this one or none. -/
theorem filter_only {p : Route η → Bool} (h : ∀ other ∈ before ++ after, p other = false) :
    (before ++ route :: after).filter p = if p route then [route] else [] := by
  rw [List.forall_mem_append] at h
  rw [List.filter_append, List.filter_cons, filter_eq_nil.mpr h.1, filter_eq_nil.mpr h.2,
    List.nil_append]

/-- If one route without parameters alone has a path as its text and lacks the method, a request is
refused with the methods of the route. -/
theorem Indexed.resolve_of_only_static (h : r.Indexed)
    (hroutes : r.routes = before ++ route :: after) (hstatic : route.isStatic = true)
    (hmatch : route.matchesPath path = true)
    (honly : ∀ other ∈ before ++ after, other.matchesPath path = false)
    (hmethod : route.allows method = false) :
    r.resolve path method = .error (.methodNotAllowed path method (unionMethods [route])) := by
  have hfixed : r.routes.filter (belongsToPath path) = [route] := by
    rw [hroutes, filter_only fun other hother => belongsToPath_of_not_matchesPath (honly other hother),
      belongsToPath_eq, hstatic, hmatch]
    rfl
  rw [h.resolve_fixed (by rw [hfixed]; exact List.cons_ne_nil _ _), hfixed]
  simp [resolveStatic, hmethod]

/-- The routes that have a method and parameters are all other ones than a route that lacks the method. -/
theorem mem_filter_belongsToMethod {other : Route η} (hmethod : route.allows method = false) :
    other ∈ (before ++ route :: after).filter (belongsToMethod method) ↔
      other ∈ before ++ after ∧ other.isStatic = false ∧ other.allows method = true := by
  have hroute : belongsToMethod method route = false := by rw [belongsToMethod, hmethod, Bool.and_false]
  rw [List.filter_append, List.filter_cons_of_neg (Bool.eq_false_iff.mp hroute), ← List.filter_append,
    List.mem_filter, belongsToMethod, Bool.and_eq_true, Bool.not_eq_true']

/-- If one route with parameters alone matches a path and lacks the method, a request is refused with the
methods of the route, provided that some route with parameters has the method. -/
theorem Indexed.resolve_of_only_dynamic (h : r.Indexed)
    (hroutes : r.routes = before ++ route :: after) (hdynamic : route.isStatic = false)
    (hmatch : route.matchesPath path = true)
    (honly : ∀ other ∈ before ++ after, other.matchesPath path = false)
    (hmethod : route.allows method = false) :
    r.resolve path method =
      if ∃ other ∈ before ++ after, other.isStatic = false ∧ other.allows method = true then
        .error (.methodNotAllowed path method (unionMethods [route]))
      else .error (.notFound path) := by
  have hfixed : r.routes.filter (belongsToPath path) = [] := by
    rw [hroutes, filter_only fun other hother => belongsToPath_of_not_matchesPath (honly other hother),
      belongsToPath_eq, hdynamic]
    rfl
  have hmatching : (r.routes.filter (!·.isStatic)).filter (·.matchesPath path) = [route] := by
    rw [hroutes, List.filter_filter, filter_only fun other hother => by rw [honly other hother]; rfl,
      hmatch, hdynamic]
    rfl
  -- the route itself lacks the method, so those that have it are other ones and do not match
  have hothers {other : Route η} : other ∈ r.routes.filter (belongsToMethod method) ↔
      other ∈ before ++ after ∧ other.isStatic = false ∧ other.allows method = true := by
    rw [hroutes]
    exact mem_filter_belongsToMethod hmethod
  have hfind : (r.routes.filter (belongsToMethod method)).findSome? (answer? path method) = none :=
    List.findSome?_eq_none_iff.mpr fun other hother =>
      answer?_of_not_matchesPath (honly other (hothers.mp hother).1) method
  rw [h.resolve_dynamic hfixed, hfind, Option.getD_none, refusal_eq, hmatching,
    if_neg (List.cons_ne_nil _ _)]
  by_cases hnone : r.routes.filter (belongsToMethod method) = []
  · rw [if_pos hnone, if_neg]
    rintro ⟨other, hother⟩
    exact List.ne_nil_of_mem (hothers.mpr hother) hnone
  · obtain ⟨other, hother⟩ := List.exists_mem_of_ne_nil _ hnone
    rw [if_neg hnone, if_pos ⟨other, hothers.mp hother⟩]

end Router

/-! ## Routes of registered views -/

namespace App

variable {a b : App} {item : Item} {first last items others : List Item} {rule : String} {v : View}
  {own : Option RouteOptions} {route : Route Handler}

/-- Items that all succeed can be cut in two. -/
theorem exists_performAll_of_append (h : a.performAll (items ++ others) = (b, none)) :
    ∃ c, a.performAll items = (c, none) ∧ c.performAll others = (b, none) := by
  induction items generalizing a with
  | nil => exact ⟨a, rfl, h⟩
  | cons item items ih =>
    rw [List.cons_append] at h
    cases hitem : a.perform item with
    | ok c =>
      rw [performAll_cons_of_ok hitem] at h ⊢
      exact ih h
    | error e =>
      rw [performAll_cons_of_error hitem] at h
      cases h

/-- Items leave the routes that there are where they are. -/
theorem exists_routes_performAll (a : App) (items : List Item) :
    ∃ more, (a.performAll items).1.routes = a.routes ++ more := by
  refine performAll_induction (P := fun b => ∃ more, b.routes = a.routes ++ more)
    (fun b c item _ hb h => ?_) ⟨[], (List.append_nil _).symm⟩
  obtain ⟨more, hmore⟩ := hb
  obtain ⟨name, filter, -, rfl⟩ | ⟨route, -, rfl⟩ := perform_eq_ok h
  · exact ⟨more, hmore⟩
  · refine ⟨more ++ [route], ?_⟩
    rw [← List.append_assoc, ← hmore]
    exact Router.routes_add b.router route

/-- Items that make routes, if none fails, add one route each. -/
theorem exists_made (h : a.performAll items = (b, none))
    (hitems : ∀ item ∈ items, item.rule?.isSome = true) :
    ∃ made, List.Forall₂ (Makes a) items made ∧ b.router.routes = a.router.routes ++ made ∧
      b.filters = a.filters ∧ b.checking = a.checking := by
  induction items generalizing a with
  | nil =>
    cases h
    exact ⟨[], .nil, (List.append_nil _).symm, rfl, rfl⟩
  | cons item items ih =>
    obtain ⟨hitem, hitems⟩ := List.forall_mem_cons.mp hitems
    cases hperform : a.perform item with
    | error e =>
      rw [performAll_cons_of_error hperform] at h
      cases h
    | ok c =>
      rw [performAll_cons_of_ok hperform] at h
      obtain ⟨name, filter, rfl, -⟩ | ⟨route, hmakes, rfl⟩ := perform_eq_ok hperform
      · cases hitem
      · obtain ⟨made, hmade, hroutes, hfilters, hchecking⟩ := ih h hitems
        have hothers : List.Forall₂ (Makes a) items made :=
          hmade.imp fun _ _ hmakes => hmakes.congr rfl rfl
        refine ⟨route :: made, .cons hmakes hothers, ?_, hfilters, hchecking⟩
        rw [hroutes]
        show (a.router.add route).routes ++ made = _
        rw [Router.routes_add, List.append_assoc]
        rfl

/-- Items keep the indexes of the router exact. -/
theorem indexed_performAll (h : a.router.Indexed) (items : List Item) :
    (a.performAll items).1.router.Indexed := by
  refine performAll_induction (P := fun b => b.router.Indexed) (fun b c item _ hb h => ?_) h
  obtain ⟨name, filter, -, rfl⟩ | ⟨route, -, rfl⟩ := perform_eq_ok h
  · exact hb
  · exact hb.add route

theorem indexed_addGroup (h : a.router.Indexed) (g : Group) : (a.addGroup g).1.router.Indexed := by
  have hitems := indexed_performAll h (g.items.map (g.place a.defaultOptions))
  rw [addGroup, upToFailure_performIn]
  cases hplaced : a.performAll (g.items.map (g.place a.defaultOptions)) with
  | mk b failure =>
    rw [hplaced] at hitems
    cases failure <;> exact hitems

/-- A script makes the router that the items of its flat script make. -/
theorem router_setUp (a : App) (script : List Step) :
    (a.setUp script).router = (a.performAll (a.flatten script)).1.router := by
  rw [performAll_flatten]
  rfl

/-- The router of an application that was set up has exact indexes. -/
theorem indexed_setUp (checking : Bool) (script : List Step) :
    (App.setUp { checking } script).router.Indexed := by
  rw [router_setUp]
  exact indexed_performAll Router.Indexed.empty _

/-- A view that is registered by a script has a route, which stands behind the routes of the items
before it. -/
theorem exists_view_route {script : List Step}
    (h : a.flatten script = first ++ .view rule v own :: last) :
    ∃ route after, Makes (a.performAll first).1 (.view rule v own) route ∧
      (a.setUp script).routes = (a.performAll first).1.routes ++ route :: after := by
  have hflat := performAll_flatten a script
  rw [h] at hflat
  obtain ⟨b, hfirst, hrest⟩ := exists_performAll_of_append hflat
  cases hview : b.perform (.view rule v own) with
  | error e =>
    rw [performAll_cons_of_error hview] at hrest
    cases hrest
  | ok c =>
    rw [performAll_cons_of_ok hview] at hrest
    obtain ⟨name, filter, hfilter, -⟩ | ⟨route, hmakes, rfl⟩ := perform_eq_ok hview
    · cases hfilter
    · obtain ⟨after, hafter⟩ := exists_routes_performAll { b with router := b.router.add route } last
      rw [hrest] at hafter
      have hadded : ({ b with router := b.router.add route } : App).routes = b.routes ++ [route] :=
        Router.routes_add b.router route
      rw [hadded] at hafter
      refine ⟨route, after, by rwa [hfirst], ?_⟩
      rw [hfirst, List.append_cons]
      exact hafter

/-- The route of a view has the methods of the view. -/
theorem allows_of_makes_view (h : Makes a (.view rule v own) route) (method : String) :
    route.allows method = v.methods.contains method := by
  cases h with
  | view hview hbuild =>
    rw [(Route.built hbuild).allows, Bool.eq_iff_iff, List.contains_iff_mem,
      Std.ExtTreeSet.mem_toList, Std.ExtTreeSet.mem_iff_contains]

/-- A refusal by the route of a view lists the methods of the view. -/
theorem unionMethods_of_makes_view (h : Makes a (.view rule v own) route) :
    Router.unionMethods [route] = v.methods := by
  refine Std.ExtTreeSet.ext_contains fun method => ?_
  rw [Router.contains_unionMethods, List.any_cons, List.any_nil, Bool.or_false,
    allows_of_makes_view h]

/-! ## Answers -/

/-- A request for which no route is found is answered as the router says. -/
theorem respond_of_error {r : Request} {e : ResolveError}
    (h : a.router.resolve (Url.decodePath r.target.path) r.method = .error e) :
    a.respond r = e.response := by
  rw [respond, answer, h]
  rfl

/-- **Methods for which a view has no handler.** A view that is registered by a script has a route under
exactly the methods for which it has a handler. If no other route matches the path of a request and the
view has no handler for the method, the request is refused and the methods of the view are listed, be the
rule of the view without parameters or the method one of another route with parameters; otherwise the path
is not found. -/
theorem respond_unattached {checking : Bool} {script : List Step}
    (h : App.flatten { checking } script = first ++ .view rule v own :: last) :
    (∀ method, method ∈ v.methods.toList ↔
      ∃ verb handler, v.handlers verb = some handler ∧ verb.method = method) ∧
    ∃ before route after, before = (App.performAll { checking } first).1.routes ∧
      Makes (App.performAll { checking } first).1 (.view rule v own) route ∧
      (App.setUp { checking } script).routes = before ++ route :: after ∧
      ∀ r : Request, route.matchesPath (Url.decodePath r.target.path) = true →
        (∀ other ∈ before ++ after, other.matchesPath (Url.decodePath r.target.path) = false) →
        (∀ verb handler, v.handlers verb = some handler → verb.method ≠ r.method) →
        (App.setUp { checking } script).respond r =
          if route.isStatic = true ∨
              ∃ other ∈ before ++ after, other.isStatic = false ∧ other.allows r.method = true then
            .methodNotAllowed v.methods.toList
          else .text "Not Found" 404 := by
  refine ⟨fun method => ?_, ?_⟩
  · rw [Std.ExtTreeSet.mem_toList, Std.ExtTreeSet.mem_iff_contains, View.contains_methods]
  obtain ⟨route, after, hmakes, hroutes⟩ := exists_view_route h
  refine ⟨_, route, after, rfl, hmakes, hroutes, fun r hmatch honly hmethod => ?_⟩
  have hindexed := indexed_setUp checking script
  have hlacks : route.allows r.method = false := by
    rw [allows_of_makes_view hmakes, Bool.eq_false_iff, Ne, View.contains_methods]
    rintro ⟨verb, handler, hhandler, hverb⟩
    exact hmethod verb handler hhandler hverb
  by_cases hstatic : route.isStatic = true
  · have hresolve := hindexed.resolve_of_only_static hroutes hstatic hmatch honly hlacks
    rw [respond_of_error hresolve, if_pos (.inl hstatic), unionMethods_of_makes_view hmakes]
    rfl
  · have hdynamic : route.isStatic = false := Bool.eq_false_iff.mpr hstatic
    have hresolve := hindexed.resolve_of_only_dynamic hroutes hdynamic hmatch honly hlacks
    by_cases hdeclared : ∃ other ∈ (App.performAll { checking } first).1.routes ++ after,
        other.isStatic = false ∧ other.allows r.method = true
    · rw [if_pos hdeclared, unionMethods_of_makes_view hmakes] at hresolve
      rw [respond_of_error hresolve, if_pos (.inr hdeclared)]
      rfl
    · rw [if_neg hdeclared] at hresolve
      rw [respond_of_error hresolve, if_neg fun h => h.elim hstatic hdeclared]
      rfl

/-- A single item that succeeds stands in the flat script. -/
theorem flatten_item (h : a.perform item = .ok b) (script : List Step) :
    a.flatten (.item item :: script) = item :: b.flatten script := by
  rw [flatten, Step.items, performAll_cons_of_ok h, beforeFailure, h]
  rfl

/-- A view with handlers for three methods. -/
def personItem : Item := .view "/person/<name>" Demo.persons none

/-- A route under a fourth method for other paths. -/
def peopleItem : Item := .route "/people/<name>" ["POST"] Demo.hello none

/-- A request for the view under the fourth method. -/
def createRequest : Request where
  method := "POST"
  target := ⟨"/person/Ada", none⟩
  headers := {}
  body := .empty

theorem method_ne_of_handlers_persons (verb : Verb) (handler : Handler)
    (h : Demo.persons.handlers verb = some handler) : verb.method ≠ createRequest.method := by
  cases verb with
  | post => simp [Demo.persons, View.on, View.empty] at h
  | _ => decide

/-- The view is refused under a method that only the other route has. -/
theorem respond_unattached_people :
    App.flatten {} [.item personItem, .item peopleItem] = [] ++ personItem :: [peopleItem] ∧
      (∀ verb handler, Demo.persons.handlers verb = some handler →
        verb.method ≠ createRequest.method) ∧
      (App.setUp {} [.item personItem, .item peopleItem]).respond createRequest =
        .methodNotAllowed ["DELETE", "GET", "PUT"] := by
  have hperform : ((App.perform {} personItem).toOption.any fun a =>
      (a.perform peopleItem).toOption.isSome) = true := by decide +kernel
  have hflat : App.flatten {} [.item personItem, .item peopleItem] =
      [] ++ personItem :: [peopleItem] := by
    cases hfirst : App.perform {} personItem with
    | error e => rw [hfirst] at hperform; cases hperform
    | ok a =>
      cases hsecond : a.perform peopleItem with
      | error e => simp [hfirst, hsecond, Except.toOption] at hperform
      | ok b => rw [flatten_item hfirst, flatten_item hsecond]; rfl
  have hmethods : Demo.persons.methods.toList = ["DELETE", "GET", "PUT"] := by decide +kernel
  have htable : (App.setUp {} [.item personItem, .item peopleItem]).routes.map (fun route =>
      (route.matchesPath "/person/Ada", !route.isStatic && route.allows "POST")) =
      [(true, false), (false, true)] := by decide +kernel
  have hpath : Url.decodePath createRequest.target.path = "/person/Ada" := by decide +kernel
  obtain ⟨-, before, route, after, rfl, -, hroutes, hrespond⟩ := respond_unattached hflat
  rw [hroutes] at htable
  -- no route stands before that of the view, and one behind it
  obtain ⟨hfirst, hrest⟩ := List.cons.inj htable
  obtain ⟨other, rfl, hsecond⟩ := List.map_eq_singleton_iff.mp hrest
  have hview : route.matchesPath "/person/Ada" = true := congrArg Prod.fst hfirst
  have hothers : other.matchesPath "/person/Ada" = false := congrArg Prod.fst hsecond
  obtain ⟨hdynamic, hallows⟩ : other.isStatic = false ∧ other.allows "POST" = true := by
    simpa using congrArg Prod.snd hsecond
  have hlast : other ∈ (App.performAll {} []).1.routes ++ [other] := List.mem_singleton_self other
  refine ⟨hflat, method_ne_of_handlers_persons, ?_⟩
  rw [hrespond createRequest (by rwa [hpath]) ?_ method_ne_of_handlers_persons,
    if_pos (.inr ⟨other, hlast, hdynamic, hallows⟩), hmethods]
  intro unrelated hmem
  obtain rfl : unrelated = other := List.mem_singleton.mp hmem
  rwa [hpath]

/-- The view is not found under a method that no route has. -/
theorem respond_undeclared :
    App.flatten {} [.item personItem] = [personItem] ∧
      (∃ route, (App.setUp {} [.item personItem]).routes = [route] ∧
        route.matchesPath "/person/Ada" = true) ∧
      (∀ verb handler, Demo.persons.handlers verb = some handler →
        verb.method ≠ createRequest.method) ∧
      ((App.setUp {} [.item personItem]).respond createRequest).status = 404 := by
  have hroutes : (App.setUp {} [.item personItem]).routes.map (·.matchesPath "/person/Ada") =
      [true] := by decide +kernel
  have hflat : App.flatten {} [.item personItem] = [personItem] := by
    cases hperform : App.perform {} personItem with
    | error e =>
      have hsome : (App.perform {} personItem).toOption.isSome = true := by decide +kernel
      rw [hperform] at hsome
      cases hsome
    | ok a => exact flatten_item hperform []
  obtain ⟨route, hroute, hmatch⟩ := List.map_eq_singleton_iff.mp hroutes
  exact ⟨hflat, ⟨route, hroute, hmatch⟩, method_ne_of_handlers_persons, by decide +kernel⟩

end App

end WebRouting
