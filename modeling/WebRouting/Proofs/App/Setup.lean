import WebRouting.App

/-! # Setting applications up

A setup script is a list of steps, each an item by itself or a group. `App.setUp` takes the steps one
after another and ignores what fails. An item that is carried out either makes its name mean a filter or
adds one route (`App.perform_eq_ok`), so a property that both keep holds after any number of items
(`App.performAll_induction`). The names of complete groups are kept beside the rest and decide nothing
(`App.performAll_withGroups`). -/

namespace WebRouting

/-! ## Scripts -/

/-- A step in setting an application up. -/
inductive Step where
  /-- An item by itself. -/
  | item (item : Item)
  /-- A group. -/
  | group (group : Group)

/-- The items that a step names. -/
def Step.members : Step → List Item
  | .item i => [i]
  | .group g => g.items

/-- The rule of an item that makes a route. -/
def Item.rule? : Item → Option String
  | .filter .. => none
  | .route rule .. => some rule
  | .view rule .. => some rule

namespace App

/-- Takes a step. A single item that fails changes nothing, and a group that fails leaves what it had
carried out before. -/
def take (a : App) : Step → App
  | .item item =>
    match a.perform item with
    | .ok b => b
    | .error _ => a
  | .group g => (a.addGroup g).1

/-- Takes the steps of a script and ignores failures. -/
def setUp (a : App) (script : List Step) : App := script.foldl take a

@[simp] theorem setUp_nil (a : App) : a.setUp [] = a := rfl

@[simp] theorem setUp_cons (a : App) (step : Step) (script : List Step) :
    a.setUp (step :: script) = (a.take step).setUp script := rfl

/-! ## Items -/

/-- The route that an item adds to an application. -/
inductive Makes (a : App) : Item → Route Handler → Prop where
  /-- A route to a handler. -/
  | route {rule : String} {methods : List String} {handler : Handler} {own : Option RouteOptions}
      {route : Route Handler}
      (h : Route.build a.filters rule methods handler (own.getD a.defaultOptions) = .ok route) :
      Makes a (.route rule methods handler own) route
  /-- A route to the one handler that a view stands for, under the methods of the view. -/
  | view {rule : String} {view : View} {own : Option RouteOptions} {handler : Handler}
      {route : Route Handler} (hview : view.handler rule = .ok handler)
      (h : Route.build a.filters rule view.methods.toList handler (own.getD a.defaultOptions) =
        .ok route) :
      Makes a (.view rule view own) route

theorem addRoute_eq_ok {a b : App} {rule : String} {methods : List String} {handler : Handler}
    {options : RouteOptions} (h : a.addRoute rule methods handler options = .ok b) :
    ∃ route, Route.build a.filters rule methods handler options = .ok route ∧
      b = { a with router := a.router.add route } := by
  rw [addRoute] at h
  cases hbuild : Route.build a.filters rule methods handler options with
  | error e => rw [hbuild] at h; cases h
  | ok route => rw [hbuild] at h; cases h; exact ⟨route, rfl, rfl⟩

theorem addView_of_handler {a : App} {rule : String} {view : View} {handler : Handler}
    (h : view.handler rule = .ok handler) (options : RouteOptions) :
    a.addView rule view options = a.addRoute rule view.methods.toList handler options := by
  rw [addView, h]
  rfl

theorem addView_eq_ok {a b : App} {rule : String} {view : View} {options : RouteOptions}
    (h : a.addView rule view options = .ok b) :
    ∃ handler, view.handler rule = .ok handler ∧
      a.addRoute rule view.methods.toList handler options = .ok b := by
  cases hview : view.handler rule with
  | error e => rw [addView, hview] at h; cases h
  | ok handler => rw [addView_of_handler hview] at h; exact ⟨handler, rfl, h⟩

/-- What carrying an item out can do: register a filter or add a route. -/
theorem perform_eq_ok {a b : App} {item : Item} (h : a.perform item = .ok b) :
    (∃ name filter, item = .filter name filter ∧ b = a.setFilter name filter) ∨
      ∃ route, Makes a item route ∧ b = { a with router := a.router.add route } := by
  cases item with
  | filter name filter => cases h; exact .inl ⟨name, filter, rfl, rfl⟩
  | route rule methods handler own =>
    obtain ⟨route, hbuild, rfl⟩ := addRoute_eq_ok h
    exact .inr ⟨route, .route hbuild, rfl⟩
  | view rule view own =>
    obtain ⟨handler, hview, hadd⟩ := addView_eq_ok h
    obtain ⟨route, hbuild, rfl⟩ := addRoute_eq_ok hadd
    exact .inr ⟨route, .view hview hbuild, rfl⟩

/-- Items do not change the options of later items, nor the names of groups. -/
theorem frame_of_perform {a b : App} {item : Item} (h : a.perform item = .ok b) :
    b.checking = a.checking ∧ b.groups = a.groups := by
  obtain ⟨name, filter, -, rfl⟩ | ⟨route, -, rfl⟩ := perform_eq_ok h <;> exact ⟨rfl, rfl⟩

/-! ## Lists of items -/

theorem performAll_cons_of_ok {a b : App} {item : Item} (h : a.perform item = .ok b)
    (items : List Item) : a.performAll (item :: items) = b.performAll items := by
  rw [performAll, upToFailure, h]
  rfl

theorem performAll_cons_of_error {a : App} {item : Item} {e : RouteError}
    (h : a.perform item = .error e) (items : List Item) :
    a.performAll (item :: items) = (a, some e) := by
  rw [performAll, upToFailure, h]

/-- After items of which none failed, others can follow. -/
theorem performAll_append {a b : App} {items : List Item} (h : a.performAll items = (b, none))
    (others : List Item) : a.performAll (items ++ others) = b.performAll others := by
  induction items generalizing a with
  | nil => cases h; rfl
  | cons item items ih =>
    cases hitem : a.perform item with
    | ok c =>
      rw [performAll_cons_of_ok hitem] at h
      rw [List.cons_append, performAll_cons_of_ok hitem, ih h]
    | error e =>
      rw [performAll_cons_of_error hitem] at h
      cases h

/-- What each of the items keeps is kept by all of them together, failures included. -/
theorem performAll_induction {P : App → Prop} {items : List Item}
    (hstep : ∀ a b, ∀ item ∈ items, P a → a.perform item = .ok b → P b) {a : App} (h : P a) :
    P (a.performAll items).1 := by
  induction items generalizing a with
  | nil => exact h
  | cons item items ih =>
    cases hitem : a.perform item with
    | ok b =>
      rw [performAll_cons_of_ok hitem]
      exact ih (fun a b other hother => hstep a b other (List.mem_cons_of_mem _ hother))
        (hstep a b item List.mem_cons_self h hitem)
    | error e =>
      rw [performAll_cons_of_error hitem]
      exact h

/-- Items do not change the options of later items, nor the names of groups. -/
theorem frame_of_performAll (a : App) (items : List Item) :
    (a.performAll items).1.checking = a.checking ∧ (a.performAll items).1.groups = a.groups := by
  refine performAll_induction (P := fun b => b.checking = a.checking ∧ b.groups = a.groups)
    (fun b c item _ hb h => ?_) ⟨rfl, rfl⟩
  obtain ⟨hchecking, hgroups⟩ := frame_of_perform h
  exact ⟨hchecking.trans hb.1, hgroups.trans hb.2⟩

/-- What an item makes depends on the filters and on the options of the application only. -/
theorem Makes.congr {a b : App} {item : Item} {route : Route Handler} (h : Makes a item route)
    (hfilters : b.filters = a.filters) (hchecking : b.checking = a.checking) : Makes b item route := by
  have hoptions : b.defaultOptions = a.defaultOptions := by
    rw [defaultOptions, defaultOptions, hchecking]
  cases h with
  | route h =>
    rw [← hfilters, ← hoptions] at h
    exact .route h
  | view hview h =>
    rw [← hfilters, ← hoptions] at h
    exact .view hview h

/-! ## Names of groups -/

/-- The application with other names of groups. -/
def withGroups (a : App) (groups : List String) : App := { a with groups }

@[simp] theorem withGroups_self (a : App) : a.withGroups a.groups = a := rfl

@[simp] theorem withGroups_withGroups (a : App) (groups others : List String) :
    (a.withGroups groups).withGroups others = a.withGroups others := rfl

/-- Carrying an item out does not depend on the names of groups. -/
theorem perform_withGroups (a : App) (groups : List String) (item : Item) :
    (a.withGroups groups).perform item = (a.perform item).map (·.withGroups groups) := by
  have haddRoute : ∀ rule methods handler options,
      (a.withGroups groups).addRoute rule methods handler options =
        (a.addRoute rule methods handler options).map (·.withGroups groups) := by
    intro rule methods handler options
    simp only [addRoute, withGroups]
    cases Route.build a.filters rule methods handler options <;> rfl
  cases item with
  | filter name filter => rfl
  | route rule methods handler own => exact haddRoute rule methods handler _
  | view rule view own =>
    simp only [perform, addView]
    cases view.handler rule with
    | error e => rfl
    | ok handler => exact haddRoute rule view.methods.toList handler _

/-- Carrying items out does not depend on the names of groups. -/
theorem performAll_withGroups (a : App) (groups : List String) (items : List Item) :
    (a.withGroups groups).performAll items =
      ((a.performAll items).1.withGroups groups, (a.performAll items).2) := by
  induction items generalizing a with
  | nil => rfl
  | cons item items ih =>
    have hitem := perform_withGroups a groups item
    cases hperform : a.perform item with
    | ok b =>
      rw [hperform] at hitem
      rw [performAll_cons_of_ok hitem, performAll_cons_of_ok hperform, ih]
    | error e =>
      rw [hperform] at hitem
      rw [performAll_cons_of_error hitem, performAll_cons_of_error hperform]

end App

end WebRouting
