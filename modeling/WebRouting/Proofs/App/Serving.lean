import WebRouting.Demo
import WebRouting.Proofs.App.Flatten
import WebRouting.Proofs.Handler.Faults
import WebRouting.Proofs.Route.Build
import WebRouting.Proofs.Router.Allowed

/-! # Serving

What is checked when an application is set up makes serving safe. `App.Serves` says so of an application:
its router is indexed, and each route gives its handler, in the contexts with its methods, as many values
as the handler takes, of which the handler then has faults of the client only. The application without
routes has the property; if handlers have typed parameters whose number is checked, an item keeps it
(`App.Serves.perform`), and so do lists of items, steps and whole scripts (`App.Serves.setUp`). In an
application with the property the only fault of a handler is a value of a wrong kind
(`App.Serves.isClients`). -/

namespace WebRouting

/-! ## Routes -/

/-- A route hands its handler only what the handler can deal with. -/
structure Route.Serves (route : Route Handler) : Prop where
  /-- Paths are compared as the compiled rule says. -/
  matcher : Matcher.ofCompiled? route.compiled = some route.matcher
  /-- The handler takes as many values as the rule has parameters. -/
  arity : route.compiled.params.length = route.handler.arity
  /-- Under the methods of the route its handler has faults of the client only. -/
  handler : ∀ c : Context, route.allows c.method = true → route.handler.Serves c

namespace Route

variable {route : Route Handler}

/-- A route whose parameters were counted serves if its handler does under the methods of the route. -/
theorem serves_of_build {registry : Registry} {rule : String} {methods : List String}
    {handler : Handler} {options : RouteOptions}
    (h : build registry rule methods handler options = .ok route)
    (hchecking : options.checking = true)
    (hserves : ∀ c : Context, methods.contains c.method = true → handler.Serves c) :
    route.Serves := by
  have hallows := (built h).allows
  obtain ⟨set, segments, matcher, -, -, hmatcher, harity, rfl⟩ := build_eq_ok h
  refine ⟨hmatcher, harity hchecking, fun c hc => hserves c ?_⟩
  rw [← hallows]
  exact hc

/-- If a route that serves matches a request, its handler has faults of the client only. -/
theorem Serves.isClients (h : route.Serves) {c : Context} {path : String} {values : List Value}
    (hmatch : route.match? path c.method = some (.ok values)) {fault : Fault}
    (hfault : route.handler.answer c values = .error fault) : fault.IsClients := by
  have hallows : route.allows c.method = true := by
    have hsome : (route.match? path c.method).isSome = true := by rw [hmatch]; rfl
    rw [isSome_match?, Bool.and_eq_true] at hsome
    exact hsome.1
  have hlength : values.length = route.handler.arity :=
    (length_of_match? h.matcher hmatch).trans h.arity
  exact h.handler c hallows values hlength fault hfault

end Route

/-! ## Items -/

namespace Item

/-- The handlers of an item. -/
def handlers : Item → List Handler
  | .filter .. => []
  | .route _ _ handler _ => [handler]
  | .view _ v _ => v.attached

/-- Whether the number of parameters is checked for an item. A filter has none. -/
def checking (defaults : RouteOptions) : Item → Bool
  | .filter .. => true
  | .route _ _ _ own => (own.getD defaults).checking
  | .view _ _ own => (own.getD defaults).checking

/-- The handlers of the item have typed parameters, and their number is checked. -/
structure IsSafe (defaults : RouteOptions) (item : Item) : Prop where
  /-- All handlers have typed parameters. -/
  typed : ∀ handler ∈ item.handlers, handler.IsTyped
  /-- The number of parameters is checked. -/
  checking : item.checking defaults = true

/-- An item of a group is as safe as it would be outside. -/
theorem IsSafe.place {defaults : RouteOptions} {item : Item} (h : item.IsSafe defaults) (g : Group) :
    (g.place defaults item).IsSafe defaults := by
  obtain ⟨htyped, hchecking⟩ := h
  cases item with
  | filter name filter => exact ⟨htyped, hchecking⟩
  | route rule methods handler own => exact ⟨htyped, hchecking⟩
  | view rule view own => exact ⟨htyped, hchecking⟩

end Item

/-- A step comes to items that are as safe as those that it names. -/
theorem Step.isSafe_items {defaults : RouteOptions} {step : Step}
    (h : ∀ item ∈ step.members, item.IsSafe defaults) :
    ∀ item ∈ step.items defaults, item.IsSafe defaults := by
  cases step with
  | item i => exact h
  | group g =>
    intro item hitem
    obtain ⟨member, hmember, rfl⟩ := List.mem_map.mp hitem
    exact (h member hmember).place g

/-! ## Applications -/

namespace App

/-- All routes of an application serve, and its router finds them. -/
structure Serves (a : App) : Prop where
  /-- The indexes of the router are exact. -/
  indexed : a.router.Indexed
  /-- All routes serve. -/
  routes : ∀ route ∈ a.router.routes, route.Serves

/-- An application without routes serves. -/
theorem serves_empty (filters : Registry) (groups : List String) (checking : Bool) :
    Serves { filters, groups, checking } :=
  ⟨Router.Indexed.empty, fun _ hroute => nomatch hroute⟩

/-- The route that a safe item makes serves: its handler has typed parameters, or it is that of a view
whose handlers have. -/
theorem serves_of_makes {a : App} {item : Item} {route : Route Handler} (h : Makes a item route)
    (hsafe : item.IsSafe a.defaultOptions) : route.Serves := by
  cases h with
  | route h =>
    refine Route.serves_of_build h hsafe.checking fun c _ => ?_
    exact Handler.serves_typed (hsafe.typed _ List.mem_cons_self) c
  | @view rule view own handler _ hview h =>
    refine Route.serves_of_build h hsafe.checking fun c hc => ?_
    -- the methods of the route are those of the view
    have hmethod : view.methods.contains c.method = true := by
      rw [List.contains_iff_mem, Std.ExtTreeSet.mem_toList] at hc
      exact Std.ExtTreeSet.mem_iff_contains.mp hc
    exact View.serves_handler hview
      (fun other hother => Handler.serves_typed (hsafe.typed other hother) c) hmethod

namespace Serves

variable {a b : App}

/-- A safe item keeps an application serving. -/
theorem perform (h : a.Serves) {item : Item} (hsafe : item.IsSafe a.defaultOptions)
    (hperform : a.perform item = .ok b) : b.Serves := by
  obtain ⟨name, filter, -, rfl⟩ | ⟨route, hmakes, rfl⟩ := perform_eq_ok hperform
  · exact ⟨h.indexed, h.routes⟩
  · refine ⟨h.indexed.add route, fun other hother => ?_⟩
    rw [Router.routes_add, List.mem_append, List.mem_singleton] at hother
    obtain hold | rfl := hother
    · exact h.routes other hold
    · exact serves_of_makes hmakes hsafe

/-- Safe items keep an application serving, failures included. -/
theorem performAll (h : a.Serves) {items : List Item}
    (hsafe : ∀ item ∈ items, item.IsSafe a.defaultOptions) : (a.performAll items).1.Serves := by
  -- what is safe depends on the default options, which stay the same
  have hkept : (a.performAll items).1.Serves ∧
      (a.performAll items).1.defaultOptions = a.defaultOptions := by
    refine performAll_induction (P := fun b => b.Serves ∧ b.defaultOptions = a.defaultOptions)
      (fun b c item hitem hb hperform => ?_) ⟨h, rfl⟩
    have hdefaults : c.defaultOptions = b.defaultOptions :=
      congrArg (RouteOptions.mk none) (frame_of_perform hperform).1
    refine ⟨hb.1.perform ?_ hperform, hdefaults.trans hb.2⟩
    rw [hb.2]
    exact hsafe item hitem
  exact hkept.1

/-- A step that names safe items keeps an application serving. -/
theorem take (h : a.Serves) {step : Step}
    (hsafe : ∀ item ∈ step.members, item.IsSafe a.defaultOptions) : (a.take step).Serves := by
  have hitems := h.performAll (Step.isSafe_items hsafe)
  rw [take_eq]
  exact ⟨hitems.indexed, hitems.routes⟩

/-- A script of safe items keeps an application serving. -/
theorem setUp (h : a.Serves) {script : List Step}
    (hsafe : ∀ step ∈ script, ∀ item ∈ step.members, item.IsSafe a.defaultOptions) :
    (a.setUp script).Serves := by
  induction script generalizing a with
  | nil => exact h
  | cons step script ih =>
    have hdefaults : (a.take step).defaultOptions = a.defaultOptions := by
      rw [take_eq]
      exact congrArg (RouteOptions.mk none) (frame_of_performAll a _).1
    refine ih (h.take (hsafe step List.mem_cons_self)) fun other hother => ?_
    rw [hdefaults]
    exact hsafe other (List.mem_cons_of_mem _ hother)

/-- In an application that serves, the only fault of a handler is a value of a wrong kind. -/
theorem isClients (h : a.Serves) {r : Request} {fault : Fault}
    (hanswer : a.answer r = .error (.unhandled fault)) : fault.IsClients := by
  rw [answer] at hanswer
  cases hresolve : a.router.resolve (Url.decodePath r.target.path) r.method with
  | error e => rw [hresolve] at hanswer; cases hanswer
  | ok found =>
    rw [hresolve] at hanswer
    -- the route that was found matches the request
    rw [h.indexed.resolve_eq_scan] at hresolve
    obtain ⟨hmem, hmatch⟩ := Router.scan_eq_ok hresolve
    dsimp only at hanswer
    split at hanswer
    · cases hanswer
    · cases hfault : found.route.handler.answer (.ofRequest r) found.params with
      | ok response => rw [hfault] at hanswer; cases hanswer
      | error fault' =>
        rw [hfault] at hanswer
        cases hanswer
        exact (h.routes _ hmem).isClients (c := .ofRequest r) hmatch hfault

end Serves

/-- **Checks on setting up make serving safe.** If all handlers of a script have typed parameters whose
number is checked, then in the application that the script makes, failures included, no handler is ever
given a wrong number of values or finds one missing, and no view is asked for a method without a
handler, whatever the request. -/
theorem answer_setUp {checking : Bool} {script : List Step}
    (htyped : ∀ step ∈ script, ∀ item ∈ step.members, ∀ handler ∈ item.handlers, handler.IsTyped)
    (hchecking : ∀ step ∈ script, ∀ item ∈ step.members, item.checking { checking } = true)
    (r : Request) :
    (App.setUp { checking } script).answer r ≠ .error (.unhandled .wrongCount) ∧
      (∀ position, (App.setUp { checking } script).answer r ≠
        .error (.unhandled (.unconverted (.missing position)))) ∧
      ∀ methods, (App.setUp { checking } script).answer r ≠
        .error (.unhandled (.noHandler methods)) := by
  have hserves : (App.setUp { checking } script).Serves :=
    (serves_empty .builtin [] checking).setUp fun step hstep item hitem =>
      ⟨htyped step hstep item hitem, hchecking step hstep item hitem⟩
  refine ⟨fun h => ?_, fun position h => ?_, fun methods h => ?_⟩
  all_goals
    obtain ⟨expected, found, hfault⟩ := hserves.isClients h
    cases hfault

/-- Steps of the demonstration: a view and a group, after a route that fails, for its handler takes a
parameter that the rule does not have. -/
def demoScript : List Step :=
  [.item (Demo.get "/hello" Demo.hello), .item (.view "/person/<name>" Demo.persons none),
   .group Demo.api]

/-- A request for the view of the demonstration. -/
def updateRequest : Request where
  method := "PUT"
  target := ⟨"/person/Ada", none⟩
  headers := {}
  body := .empty

/-- Steps of the demonstration answer a request. -/
theorem answer_setUp_demoScript :
    (∀ step ∈ demoScript, ∀ item ∈ step.members, ∀ handler ∈ item.handlers, handler.IsTyped) ∧
      (∀ step ∈ demoScript, ∀ item ∈ step.members, item.checking { checking := true } = true) ∧
      ((App.setUp {} demoScript).answer updateRequest ≠ .error (.unhandled .wrongCount) ∧
        (∀ position, (App.setUp {} demoScript).answer updateRequest ≠
          .error (.unhandled (.unconverted (.missing position)))) ∧
        ∀ methods, (App.setUp {} demoScript).answer updateRequest ≠
          .error (.unhandled (.noHandler methods))) := by
  have htyped : ∀ step ∈ demoScript, ∀ item ∈ step.members, ∀ handler ∈ item.handlers,
      handler.IsTyped := by
    simp [demoScript, Step.members, Demo.api, Demo.get, Item.handlers, View.attached, Verb.all,
      Demo.persons, View.on, View.empty, Demo.hello, Demo.showPerson, Demo.updatePerson,
      Demo.deletePerson, Demo.status, Demo.item, Demo.price]
  have hchecking : ∀ step ∈ demoScript, ∀ item ∈ step.members,
      item.checking { checking := true } = true := by
    simp [demoScript, Step.members, Demo.api, Demo.get, Item.checking]
  exact ⟨htyped, hchecking, answer_setUp htyped hchecking updateRequest⟩

end App

end WebRouting
