import WebRouting.Route.Basic

/-! # Routers

A router holds routes in the order in which they were added and finds the one for a request. Two
indexes save it from trying them all: the positions of the routes without parameters by their path,
and those of the other ones by method. A path that is a rule without parameters is decided by the
routes with that rule alone. -/

namespace WebRouting

/-- Routes with their indexes. -/
structure Router (η : Type) where
  /-- All routes in order. -/
  routes : List (Route η) := []
  /-- The positions of the routes without parameters by path, in order. -/
  staticIndex : Std.ExtTreeMap String (List Nat) := ∅
  /-- The positions of the routes with parameters by method, in order. -/
  dynamicIndex : Std.ExtTreeMap String (List Nat) := ∅

/-- The route found for a request, and the parameters of the path. -/
structure Resolved (η : Type) where
  /-- The route. -/
  route : Route η
  /-- The decoded parameters in order. -/
  params : List Value

namespace Router

variable {η : Type}

/-! ## Building -/

/-- Puts a position behind those that an index has under a key. -/
def appendTo (index : Std.ExtTreeMap String (List Nat)) (position : Nat) (key : String) :
    Std.ExtTreeMap String (List Nat) :=
  index.insert key (index.getD key [] ++ [position])

/-- Adds a route behind all others. -/
def add (r : Router η) (route : Route η) : Router η :=
  let position := r.routes.length
  match route.staticKey? with
  | some key =>
    { r with
      routes := r.routes ++ [route]
      staticIndex := appendTo r.staticIndex position key }
  | none =>
    { r with
      routes := r.routes ++ [route]
      dynamicIndex := route.methods.toList.foldl (appendTo · position) r.dynamicIndex }

/-- The router with the routes of a list. -/
def ofList (routes : List (Route η)) : Router η := routes.foldl add {}

/-! ## Resolving -/

/-- The routes at given positions, in the order of the positions. -/
def routesAt (r : Router η) (positions : List Nat) : List (Route η) :=
  positions.filterMap (r.routes[·]?)

/-- The methods of all routes in a list. -/
def unionMethods (routes : List (Route η)) : NameSet :=
  NameSet.ofNames (routes.flatMap fun route => route.methods.toList)

/-- The routes with parameters, in order. -/
def dynamicRoutes (r : Router η) : List (Route η) := r.routes.filter (!·.isStatic)

/-- Decides a request among routes without parameters whose path it has. -/
def resolveStatic (candidates : List (Route η)) (path method : String) :
    Except ResolveError (Resolved η) :=
  match candidates.find? (·.allows method) with
  | some route => .ok ⟨route, []⟩
  | none => .error (.methodNotAllowed path method (unionMethods candidates))

/-- The decision of a route about a request. -/
def attempt? (path method : String) (route : Route η) :
    Option (Except ResolveError (Resolved η)) :=
  (route.match? path method).map fun result => result.map (Resolved.mk route)

/-- The error for a path that no route matches with the method: other methods may be allowed. -/
def refusal (r : Router η) (path method : String) : ResolveError :=
  let allowed := unionMethods (r.dynamicRoutes.filter (·.matchesPath path))
  if allowed.isEmpty then .notFound path else .methodNotAllowed path method allowed

/-- Finds the route for a request and decodes the parameters. -/
def resolve (r : Router η) (path method : String) : Except ResolveError (Resolved η) :=
  match r.staticIndex[path]? with
  | some positions => resolveStatic (r.routesAt positions) path method
  | none =>
    match r.dynamicIndex[method]? with
    | none => .error (.notFound path)
    | some positions =>
      ((r.routesAt positions).findSome? (attempt? path method)).getD
        (.error (r.refusal path method))

/-! ## Views -/

/-- The routes without parameters for a path. -/
def staticRoutes (r : Router η) (path : String) : List (Route η) :=
  r.routesAt (r.staticIndex.getD path [])

/-- The routes with parameters for a method. -/
def dynamicRoutesFor (r : Router η) (method : String) : List (Route η) :=
  r.routesAt (r.dynamicIndex.getD method [])

/-- How many routes there are. -/
def length (r : Router η) : Nat := r.routes.length

/-- How many paths are rules without parameters. -/
def staticPathCount (r : Router η) : Nat := r.staticIndex.size

/-- The router as it is shown for inspection: its indexes are hidden. -/
def inspect (r : Router η) : String :=
  Inspect.record "Router" [("routes", Inspect.sequence (r.routes.map Route.inspect))] true

end Router

end WebRouting
