import Mathlib.Data.List.Basic
import Mathlib.Data.List.Induction
import WebRouting.Router

/-! # Indexes of a router

An index lists positions of routes under keys. `Router.Indexed` says that both indexes of a router
list exactly the positions that they should, in increasing order and each once, and have no key
without a position. It holds of the empty router (`Indexed.empty`), adding a route keeps it
(`Indexed.add`), and so it holds of every router made by adding routes (`indexed_ofList`). Then the
routes at the positions listed under a key are the routes that belong to the key
(`map_routesAt_listed`). -/

namespace WebRouting

/-! ## Methods as a list -/

/-- The methods of a set are listed once each. -/
theorem MethodSet.nodup_toList (s : MethodSet) : s.toList.Nodup :=
  s.names.distinct_toList.imp fun {a b} h heq => h (by rw [heq]; exact Std.ReflCmp.compare_self)

/-- The listed methods are those of the set. -/
theorem MethodSet.mem_toList {s : MethodSet} {method : String} :
    method ∈ s.toList ↔ s.contains method = true := by
  rw [toList, contains, Std.ExtTreeSet.mem_toList, Std.ExtTreeSet.mem_iff_contains]

namespace Router

variable {η : Type}

/-! ## Positions -/

/-- The positions of the routes with a property, in increasing order. -/
def positions (p : Route η → Bool) (routes : List (Route η)) : List Nat :=
  (List.range routes.length).filter fun i => routes[i]?.any p

@[simp] theorem positions_nil (p : Route η → Bool) : positions p [] = [] := rfl

/-- A route behind the others adds its own position or none. -/
theorem positions_concat (p : Route η → Bool) (routes : List (Route η)) (route : Route η) :
    positions p (routes ++ [route]) =
      positions p routes ++ if p route then [routes.length] else [] := by
  -- the positions before the new one see the same routes as before
  have hold : ∀ i ∈ List.range routes.length,
      (routes ++ [route])[i]?.any p = routes[i]?.any p := by
    intro i hi
    rw [List.getElem?_append_left (List.mem_range.mp hi)]
  rw [positions, positions, List.length_append, List.length_singleton, List.range_succ,
    List.filter_append, List.filter_congr hold]
  by_cases hp : p route <;> simp [hp]

/-- The routes at the positions of the routes with a property are those routes, in order. -/
theorem filterMap_positions (p : Route η → Bool) (routes : List (Route η)) :
    (positions p routes).filterMap (routes[·]?) = routes.filter p := by
  -- from the end, as a router grows
  induction routes using List.reverseRecOn with
  | nil => rfl
  | append_singleton routes route ih =>
    have hold : (positions p routes).filterMap ((routes ++ [route])[·]?) =
        (positions p routes).filterMap (routes[·]?) := by
      refine List.filterMap_congr fun i hi => ?_
      have hlt : i < routes.length := List.mem_range.mp (List.mem_filter.mp hi).1
      rw [List.getElem?_append_left hlt]
    rw [positions_concat, List.filterMap_append, hold, ih, List.filter_append]
    by_cases hp : p route <;> simp [hp]

/-- What an index stores for a list of positions: nothing if there are none. -/
def listed (positions : List Nat) : Option (List Nat) :=
  if positions = [] then none else some positions

@[simp] theorem getD_listed (positions : List Nat) : (listed positions).getD [] = positions := by
  by_cases h : positions = [] <;> simp [listed, h]

theorem listed_concat (positions : List Nat) (position : Nat) :
    listed (positions ++ [position]) = some (positions ++ [position]) := by
  simp [listed]

theorem listed_eq_none {positions : List Nat} : listed positions = none ↔ positions = [] := by
  simp [listed]

/-! ## Appending to an index -/

/-- Appending a position under a key changes what is listed there and nothing else. -/
theorem getElem?_appendTo (index : Std.ExtTreeMap String (List Nat)) (position : Nat)
    (key other : String) :
    (appendTo index position key)[other]? =
      if key = other then some (index[other]?.getD [] ++ [position]) else index[other]? := by
  rw [appendTo, Std.ExtTreeMap.getElem?_insert, Std.ExtTreeMap.getD_eq_getD_getElem?]
  by_cases h : key = other <;> simp [h]

/-- Appending a position under several keys adds it once under each of them. -/
theorem getElem?_foldl_appendTo {keys : List String} (hkeys : keys.Nodup) (position : Nat)
    (index : Std.ExtTreeMap String (List Nat)) (other : String) :
    (keys.foldl (appendTo · position) index)[other]? =
      if other ∈ keys then some (index[other]?.getD [] ++ [position]) else index[other]? := by
  induction keys generalizing index with
  | nil => simp
  | cons key keys ih =>
    obtain ⟨hfresh, hrest⟩ := List.nodup_cons.mp hkeys
    rw [List.foldl_cons, ih hrest, getElem?_appendTo]
    -- `other` is `key` or among the rest, but not both: no key comes twice
    by_cases h : key = other
    · subst h
      simp [hfresh]
    · simp [h, Ne.symm h]

/-! ## The invariant -/

/-- Whether a route belongs under a path in the index of the routes without parameters. -/
def belongsToPath (path : String) (route : Route η) : Bool :=
  route.isStatic && route.pattern == path

/-- Whether a route belongs under a method in the index of the routes with parameters. -/
def belongsToMethod (method : String) (route : Route η) : Bool :=
  !route.isStatic && route.allows method

/-- Both indexes list the positions of exactly the routes that belong under each key, each once and
in the order of the routes. -/
structure Indexed (r : Router η) : Prop where
  /-- The index of the routes without parameters. -/
  static (path : String) : r.staticIndex[path]? = listed (positions (belongsToPath path) r.routes)
  /-- The index of the routes with parameters. -/
  dynamic (method : String) :
    r.dynamicIndex[method]? = listed (positions (belongsToMethod method) r.routes)

/-- A route with a key belongs under the key and under no method. -/
theorem belongs_of_staticKey {route : Route η} {key : String} (h : route.staticKey? = some key)
    (name : String) :
    belongsToPath name route = (key == name) ∧ belongsToMethod name route = false := by
  cases hm : route.matcher with
  | exact text =>
    obtain rfl : text = key := by simpa [Route.staticKey?, hm] using h
    simp [belongsToPath, belongsToMethod, Route.isStatic, Route.staticKey?, Route.pattern,
      Matcher.pattern, hm]
  | regex source expression => simp [Route.staticKey?, hm] at h

/-- A route without a key belongs under its methods and under no path. -/
theorem belongs_of_staticKey_none {route : Route η} (h : route.staticKey? = none) (name : String) :
    belongsToPath name route = false ∧ belongsToMethod name route = route.allows name := by
  simp [belongsToPath, belongsToMethod, Route.isStatic, h]

/-- The empty router is indexed. -/
theorem Indexed.empty : Indexed ({} : Router η) :=
  ⟨fun path => by simp [listed], fun method => by simp [listed]⟩

@[simp] theorem routes_add (r : Router η) (route : Route η) :
    (r.add route).routes = r.routes ++ [route] := by
  rw [add]
  split <;> rfl

/-- Adding a route keeps the indexes exact. -/
theorem Indexed.add {r : Router η} (h : r.Indexed) (route : Route η) : (r.add route).Indexed := by
  cases hkey : route.staticKey? with
  | some key =>
    have hbelongs := belongs_of_staticKey hkey
    constructor
    -- a new position under its text, and nothing under the others
    · intro path
      rw [routes_add, positions_concat, (hbelongs path).1]
      have hindex : (r.add route).staticIndex = appendTo r.staticIndex r.routes.length key := by
        simp [Router.add, hkey]
      rw [hindex, getElem?_appendTo, h.static, getD_listed]
      by_cases hpath : key = path
      · simp [hpath, listed_concat]
      · simp [hpath]
    · intro method
      have hindex : (r.add route).dynamicIndex = r.dynamicIndex := by simp [Router.add, hkey]
      rw [routes_add, positions_concat, (hbelongs method).2, hindex, h.dynamic]
      simp
  | none =>
    have hbelongs := belongs_of_staticKey_none hkey
    constructor
    · intro path
      have hindex : (r.add route).staticIndex = r.staticIndex := by simp [Router.add, hkey]
      rw [routes_add, positions_concat, (hbelongs path).1, hindex, h.static]
      simp
    · intro method
      rw [routes_add, positions_concat, (hbelongs method).2]
      have hindex : (r.add route).dynamicIndex =
          route.methods.toList.foldl (appendTo · r.routes.length) r.dynamicIndex := by
        simp [Router.add, hkey]
      -- one new position under each of its methods: they are listed once each
      rw [hindex, getElem?_foldl_appendTo route.methods.nodup_toList, h.dynamic, getD_listed]
      have hmem : method ∈ route.methods.toList ↔ route.allows method = true :=
        MethodSet.mem_toList
      by_cases hmethod : route.allows method
      · rw [if_pos (hmem.mpr hmethod), if_pos hmethod, listed_concat]
      · rw [if_neg (hmem.not.mpr hmethod), if_neg hmethod, List.append_nil]

/-! ## Routers made by adding routes -/

theorem routes_foldl_add (routes : List (Route η)) (r : Router η) :
    (routes.foldl add r).routes = r.routes ++ routes := by
  induction routes generalizing r with
  | nil => simp
  | cons route routes ih => rw [List.foldl_cons, ih, routes_add, List.append_assoc]; rfl

/-- A router has the routes that were added, in order. -/
@[simp] theorem routes_ofList (routes : List (Route η)) : (ofList routes).routes = routes := by
  rw [ofList, routes_foldl_add, List.nil_append]

theorem Indexed.foldl_add (routes : List (Route η)) {r : Router η} (h : r.Indexed) :
    (routes.foldl Router.add r).Indexed := by
  induction routes generalizing r with
  | nil => exact h
  | cons route routes ih => exact ih (h.add route)

/-- Every router made by adding routes is indexed. -/
theorem indexed_ofList (routes : List (Route η)) : (ofList routes).Indexed :=
  Indexed.empty.foldl_add routes

/-! ## Looking up -/

/-- Nothing is listed for a property that no route has. -/
theorem positions_eq_nil {p : Route η → Bool} {routes : List (Route η)} :
    positions p routes = [] ↔ routes.filter p = [] := by
  constructor
  · intro h
    rw [← filterMap_positions, h, List.filterMap_nil]
  · intro h
    refine List.filter_eq_nil_iff.mpr fun i _ hi => ?_
    -- a position that is kept is the position of a route with the property
    obtain ⟨route, hroute, hp⟩ := (Option.any_eq_true p _).mp hi
    exact List.filter_eq_nil_iff.mp h route (List.mem_of_getElem? hroute) hp

/-- What `resolve` finds for a key, in an index that lists the positions of the routes that belong
under the key: no list when there is no such route, and those routes otherwise. -/
theorem map_routesAt_listed (r : Router η) (p : Route η → Bool) :
    (listed (positions p r.routes)).map r.routesAt =
      if r.routes.filter p = [] then none else some (r.routes.filter p) := by
  by_cases h : r.routes.filter p = []
  · rw [if_pos h, listed_eq_none.mpr (positions_eq_nil.mpr h), Option.map_none]
  · rw [if_neg h, listed, if_neg (positions_eq_nil.not.mpr h), Option.map_some, routesAt,
      filterMap_positions]

end Router

end WebRouting
