import WebRouting.Demo
import WebRouting.Proofs.App.Flatten
import WebRouting.Proofs.Rule.Compile

/-! # Filters and registration

A route keeps the filters that its rule named when the route was made. So a filter may be set before or
after a route whose rule does not use its name: the item has the same result (`App.perform_setFilter`),
and in the end there are the same routes and filters (`App.setUp_exchange`). Inside of a group an
exchange can only move the filter behind the failure that ends the group
(`App.performAll_exchange`). Filters that are set after all routes change none of them
(`App.setUp_filters`). -/

namespace WebRouting

/-- A route is built alike with and without a filter that its rule does not use. -/
theorem Route.build_register {η : Type} [Target η] {registry : Registry} {rule name : String}
    (h : ¬Rule.Uses rule name) (filter : Filter) (methods : List String) (handler : η)
    (options : RouteOptions) :
    build (registry.register name filter) rule methods handler options =
      build registry rule methods handler options := by
  unfold build
  rw [Rule.compile_register h]

/-! ## Items that make routes -/

theorem Item.rule?_place (g : Group) (defaults : RouteOptions) (item : Item) :
    (g.place defaults item).rule? = item.rule?.map g.rule := by
  cases item <;> rfl

/-- The step that sets a filter. -/
def Step.filter (entry : String × Filter) : Step := .item (.filter entry.1 entry.2)

namespace App

variable {item : Item} {rule name : String}

/-- Adding a route sees the filters that its rule uses and no others. -/
theorem addRoute_setFilter (h : ¬Rule.Uses rule name) (a : App) (filter : Filter)
    (methods : List String) (handler : Handler) (options : RouteOptions) :
    (a.setFilter name filter).addRoute rule methods handler options =
      (a.addRoute rule methods handler options).map (·.setFilter name filter) := by
  unfold addRoute setFilter
  rw [Route.build_register h]
  cases Route.build a.filters rule methods handler options <;> rfl

/-- An item that makes a route has the same result with and without a filter that its rule does not
use. -/
theorem perform_setFilter (hrule : item.rule? = some rule) (huses : ¬Rule.Uses rule name) (a : App)
    (filter : Filter) :
    (a.setFilter name filter).perform item = (a.perform item).map (·.setFilter name filter) := by
  cases item with
  | filter other spec => cases hrule
  | route rule methods handler own =>
    cases hrule
    exact addRoute_setFilter huses a filter methods handler _
  | view rule view own =>
    cases hrule
    show (a.setFilter name filter).addView rule view _ = (a.addView rule view _).map _
    unfold addView
    cases view.handler rule with
    | error e => rfl
    | ok handler => exact addRoute_setFilter huses a filter _ handler _

/-! ## Exchanges -/

/-- A filter and a route that does not use it make the same application in both orders. -/
theorem take_exchange (hrule : item.rule? = some rule) (huses : ¬Rule.Uses rule name) (a : App)
    (filter : Filter) :
    (a.take (.filter (name, filter))).take (.item item) =
      (a.take (.item item)).take (.filter (name, filter)) := by
  have hperform := perform_setFilter hrule huses a filter
  show (a.setFilter name filter).take (.item item) = (a.take (.item item)).setFilter name filter
  rw [take, take, hperform]
  cases a.perform item <;> rfl

theorem setUp_append (a : App) (script others : List Step) :
    a.setUp (script ++ others) = (a.setUp script).setUp others :=
  List.foldl_append

/-- Among the items of a group, a filter and a route that does not use it may be exchanged: then all is
the same, unless the route fails. In this case the group ends there in both orders, and only the filter
comes too late in one of them. -/
theorem performAll_exchange (hrule : item.rule? = some rule) (huses : ¬Rule.Uses rule name) (a : App)
    (filter : Filter) (first last : List Item) :
    a.performAll (first ++ .filter name filter :: item :: last) =
        a.performAll (first ++ item :: .filter name filter :: last) ∨
      ∃ b e, a.performAll (first ++ .filter name filter :: item :: last) =
          (b.setFilter name filter, some e) ∧
        a.performAll (first ++ item :: .filter name filter :: last) = (b, some e) := by
  induction first generalizing a with
  | nil =>
    have hfilter (c : App) : c.perform (.filter name filter) = .ok (c.setFilter name filter) := rfl
    have hitem := perform_setFilter hrule huses a filter
    rw [List.nil_append, List.nil_append, performAll_cons_of_ok (hfilter a)]
    cases hperform : a.perform item with
    | ok c =>
      left
      rw [hperform] at hitem
      rw [performAll_cons_of_ok hitem, performAll_cons_of_ok hperform,
        performAll_cons_of_ok (hfilter c)]
    | error e =>
      right
      rw [hperform] at hitem
      exact ⟨a, e, performAll_cons_of_error hitem last, performAll_cons_of_error hperform _⟩
  | cons other first ih =>
    cases hother : a.perform other with
    | ok c =>
      rw [List.cons_append, List.cons_append, performAll_cons_of_ok hother,
        performAll_cons_of_ok hother]
      exact ih c
    | error e =>
      left
      rw [List.cons_append, List.cons_append, performAll_cons_of_error hother,
        performAll_cons_of_error hother]

/-- Adding a group carries out its items as items by themselves. -/
theorem addGroup_eq (a : App) (g : Group) (items : List Item) : a.addGroup { g with items } =
    match a.performAll (items.map (g.place a.defaultOptions)) with
    | (b, none) => ({ b with groups := b.groups ++ [g.name] }, none)
    | (b, some e) => (b, some e) := by
  rw [addGroup, upToFailure_performIn]
  rfl

/-- A group in which a filter and a route that does not use it are exchanged has the same result and
makes the same routes; if it does not fail, it makes the same application. -/
theorem addGroup_exchange (hrule : item.rule? = some rule) {g : Group}
    (huses : ¬Rule.Uses (g.rule rule) name) (a : App) (filter : Filter) (first last : List Item) :
    let one := a.addGroup { g with items := first ++ .filter name filter :: item :: last }
    let other := a.addGroup { g with items := first ++ item :: .filter name filter :: last }
    one.2 = other.2 ∧ one.1.router = other.1.router ∧ (one.2 = none → one.1 = other.1) := by
  have hplaced : (g.place a.defaultOptions item).rule? = some (g.rule rule) := by
    rw [Item.rule?_place, hrule]
    rfl
  have hfilter : g.place a.defaultOptions (.filter name filter) = .filter name filter := rfl
  rw [addGroup_eq, addGroup_eq, List.map_append, List.map_append, List.map_cons, List.map_cons,
    List.map_cons, List.map_cons, hfilter]
  rcases performAll_exchange hplaced huses a filter (first.map (g.place a.defaultOptions))
    (last.map (g.place a.defaultOptions)) with hsame | ⟨b, e, hone, hother⟩
  · rw [hsame]
    exact ⟨rfl, rfl, fun _ => rfl⟩
  · rw [hone, hother]
    exact ⟨rfl, rfl, nofun⟩

/-! ## Later filters -/

/-- Setting filters changes nothing but the filters. -/
theorem setUp_filters (a : App) (filters : List (String × Filter)) :
    (a.setUp (filters.map Step.filter)).router = a.router := by
  induction filters generalizing a with
  | nil => rfl
  | cons entry filters ih =>
    rw [List.map_cons, setUp_cons, ih]
    rfl

/-- **Filters are captured at registration.** A filter and a route whose rule does not use the name of
the filter may change places in a script: the route has the same result, and the script makes the same
application. In a group they may change places too, only that the filter is left out if the route comes
first and fails. Filters that are set at the end, under new names or names in use, change neither what a
request is resolved to nor what a route builds of values. -/
theorem setUp_exchange (a : App) :
    (∀ (before after : List Step) (item : Item) (rule name : String) (filter : Filter),
      item.rule? = some rule → ¬Rule.Uses rule name →
      ((a.setUp before).setFilter name filter).perform item =
          ((a.setUp before).perform item).map (·.setFilter name filter) ∧
        a.setUp (before ++ .filter (name, filter) :: .item item :: after) =
          a.setUp (before ++ .item item :: .filter (name, filter) :: after)) ∧
    (∀ (before : List Step) (g : Group) (first last : List Item) (item : Item)
      (rule name : String) (filter : Filter),
      item.rule? = some rule → ¬Rule.Uses (g.rule rule) name →
      let b := a.setUp before
      let one := b.addGroup { g with items := first ++ .filter name filter :: item :: last }
      let other := b.addGroup { g with items := first ++ item :: .filter name filter :: last }
      one.2 = other.2 ∧ one.1.router = other.1.router ∧ (one.2 = none → one.1 = other.1)) ∧
    ∀ (script : List Step) (filters : List (String × Filter)),
      (∀ path method, (a.setUp (script ++ filters.map Step.filter)).router.resolve path method =
        (a.setUp script).router.resolve path method) ∧
      ∀ values, (a.setUp (script ++ filters.map Step.filter)).routes.map (fun route =>
          Rule.renderSegments values route.compiled.segments) =
        (a.setUp script).routes.map fun route =>
          Rule.renderSegments values route.compiled.segments := by
  refine ⟨?_, ?_, ?_⟩
  · intro before after item rule name filter hrule huses
    refine ⟨perform_setFilter hrule huses _ filter, ?_⟩
    rw [setUp_append, setUp_append, setUp_cons, setUp_cons, setUp_cons, setUp_cons,
      take_exchange hrule huses]
  · intro before g first last item rule name filter hrule huses
    exact addGroup_exchange hrule huses _ filter first last
  · intro script filters
    have hrouter : (a.setUp (script ++ filters.map Step.filter)).router = (a.setUp script).router := by
      rw [setUp_append, setUp_filters]
    constructor
    · intro path method
      rw [hrouter]
    · intro values
      unfold routes
      rw [hrouter]

/-- A rule with the name of a filter in an escaped placeholder and as the name of a parameter. -/
def escapedRule : String := "/\\<int:n>/<int>"

/-- A route with that rule. -/
def escapedItem : Item := .route escapedRule ["GET"] Demo.hello none

/-- The name of a filter does not count in an escaped placeholder, nor as the name of a parameter. -/
theorem setUp_exchange_escapedRule :
    escapedItem.rule? = some escapedRule ∧ ¬Rule.Uses escapedRule "int" ∧
      ¬Rule.Uses (Demo.api.rule escapedRule) "int" ∧
      App.setUp {} [.item (.filter "int" Demo.slug), .item escapedItem] =
        App.setUp {} [.item escapedItem, .item (.filter "int" Demo.slug)] ∧
      (addGroup {} { Demo.api with items := [.filter "int" Demo.slug, escapedItem] }).1.router =
        (addGroup {} { Demo.api with items := [escapedItem, .filter "int" Demo.slug] }).1.router := by
  have hrule : escapedItem.rule? = some escapedRule := rfl
  have htokens : Rule.tokenize escapedRule = [.literal "/<int:n>/", .param "default" "int"] := by
    cbv
  have hgrouped : Rule.tokenize (Demo.api.rule escapedRule) =
      [.literal "/api/<int:n>/", .param "default" "int"] := by
    cbv
  have huses : ¬Rule.Uses escapedRule "int" := by
    rintro ⟨name, hmem⟩
    rw [htokens] at hmem
    simp at hmem
  have hprefixed : ¬Rule.Uses (Demo.api.rule escapedRule) "int" := by
    rintro ⟨name, hmem⟩
    rw [hgrouped] at hmem
    simp at hmem
  obtain ⟨hstep, hgroup, -⟩ := setUp_exchange {}
  have hscript := (hstep [] [] escapedItem escapedRule "int" Demo.slug hrule huses).2
  have hrouter :=
    (hgroup [] Demo.api [] [] escapedItem escapedRule "int" Demo.slug hrule hprefixed).2.1
  exact ⟨hrule, huses, hprefixed, hscript, hrouter⟩

end App

end WebRouting
