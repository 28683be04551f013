import WebRouting.Router
import WebRouting.Rule.Join
import WebRouting.View

/-! # Applications

An application is set up item by item: filters, routes to handlers, and views. A group is a list of
items whose rules share a start and whose endpoints share a name. The items of a group are carried out
one after another up to the first that fails, and what has been carried out stays. -/

namespace WebRouting

/-! ## Items and groups -/

/-- A thing to set up. Without options an item has those of the application. -/
inductive Item where
  /-- A filter with its name. -/
  | filter (name : String) (filter : Filter)
  /-- A route to a handler. -/
  | route (rule : String) (methods : List String) (handler : Handler)
      (options : Option RouteOptions)
  /-- A route to a view, for the methods that it has. -/
  | view (rule : String) (view : View) (options : Option RouteOptions)

/-- Items with a name and a start of rules in common. -/
structure Group where
  /-- The name. -/
  name : String
  /-- What all rules start with. -/
  root : String
  /-- The items in order. -/
  items : List Item := []

namespace Group

/-- A rule of the group as a rule of the application. -/
def rule (g : Group) (rule : String) : String := Rule.join g.root rule

/-- An endpoint of the group as an endpoint of the application. -/
def endpoint (g : Group) (endpoint : String) : String := g.name ++ "." ++ endpoint

end Group

/-! ## Applications -/

/-- An application. -/
structure App where
  /-- The filters for rules to come. -/
  filters : Registry := .builtin
  /-- The routes. -/
  router : Router Handler := {}
  /-- The names of the groups that are complete, in order. -/
  groups : List String := []
  /-- Whether the number of a handler's parameters is checked unless an item says otherwise. -/
  checking : Bool := true

namespace App

/-- The options of items that have none of their own. -/
def defaultOptions (a : App) : RouteOptions := { checking := a.checking }

/-- Makes a name mean a filter in the rules to come. -/
def setFilter (a : App) (name : String) (filter : Filter) : App :=
  { a with filters := a.filters.register name filter }

/-- Adds a route to a handler. -/
def addRoute (a : App) (rule : String) (methods : List String) (handler : Handler)
    (options : RouteOptions) : Except RouteError App := do
  let route ← Route.build a.filters rule methods handler options
  return { a with router := a.router.add route }

/-- Adds a route to a view. -/
def addView (a : App) (rule : String) (view : View) (options : RouteOptions) :
    Except RouteError App := do
  a.addRoute rule view.methods.toList (← view.handler rule) options

/-- Carries an item out. -/
def perform (a : App) : Item → Except RouteError App
  | .filter name filter => .ok (a.setFilter name filter)
  | .route rule methods handler options =>
    a.addRoute rule methods handler (options.getD a.defaultOptions)
  | .view rule view options => a.addView rule view (options.getD a.defaultOptions)

/-- Carries items out one after another up to the first that fails, and returns its error too. -/
def upToFailure (carryOut : App → Item → Except RouteError App) (a : App) :
    List Item → App × Option RouteError
  | [] => (a, none)
  | item :: items =>
    match carryOut a item with
    | .ok a => a.upToFailure carryOut items
    | .error e => (a, some e)

/-- Carries items out up to the first that fails. -/
def performAll (a : App) (items : List Item) : App × Option RouteError :=
  a.upToFailure perform items

/-! ## Groups of an application -/

/-- The options of an item of a group, given its own and the name that it has without. -/
def groupOptions (a : App) (g : Group) (own : Option RouteOptions) (name : String) : RouteOptions :=
  let chosen := own.getD a.defaultOptions
  { chosen with endpoint := some (g.endpoint (chosen.endpoint.getD name)) }

/-- Carries an item of a group out. -/
def performIn (g : Group) (a : App) : Item → Except RouteError App
  | .filter name filter => .ok (a.setFilter name filter)
  | .route rule methods handler own =>
    a.addRoute (g.rule rule) methods handler (a.groupOptions g own handler.name)
  | .view rule view own => a.addView (g.rule rule) view (a.groupOptions g own view.name)

/-- Carries out the items of a group. The group counts if none fails. -/
def addGroup (a : App) (g : Group) : App × Option RouteError :=
  match a.upToFailure (performIn g) g.items with
  | (a, none) => ({ a with groups := a.groups ++ [g.name] }, none)
  | (a, some e) => (a, some e)

/-- The routes in order. -/
def routes (a : App) : List (Route Handler) := a.router.routes

/-- The application as it is shown for inspection. -/
def inspect (a : App) : String :=
  Inspect.record "App"
    [("filters", Inspect.sequence (a.filters.names.map Inspect.quoted)),
     ("routes", Inspect.count a.router.length),
     ("groups", Inspect.sequence (a.groups.map Inspect.quoted))] false

end App

end WebRouting
