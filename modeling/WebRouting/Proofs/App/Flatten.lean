import WebRouting.Proofs.App.Setup

/-! # Flat scripts

A setup script comes to the same as a flat list of items (`App.flatten`): in place of each group there
are its items with joined rules and endpoints under the name of the group, up to the first that fails,
and single items that fail are left out. `App.setUp_flatten` says that every item of the flat list
succeeds, that the application is the same but for the names of groups, and that these are the names of
the groups without a failure. The items of a group are thus what they would be outside of it
(`App.performIn_eq_perform`). -/

namespace WebRouting

/-! ## Items of groups outside of groups -/

namespace Group

/-- The options of an item of a group: its own or the default ones, and an endpoint under the name of
the group. -/
def options (g : Group) (defaults : RouteOptions) (own : Option RouteOptions) (name : String) :
    RouteOptions where
  endpoint := some (g.name ++ "." ++ (own.bind RouteOptions.endpoint).getD name)
  checking := (own.getD defaults).checking

/-- An item of a group as an item by itself. -/
def place (g : Group) (defaults : RouteOptions) : Item → Item
  | .filter name filter => .filter name filter
  | .route rule methods handler own =>
    .route (Rule.join g.root rule) methods handler (some (g.options defaults own handler.name))
  | .view rule view own =>
    .view (Rule.join g.root rule) view (some (g.options defaults own view.name))

end Group

/-- The items that a step comes to. -/
def Step.items (defaults : RouteOptions) : Step → List Item
  | .item i => [i]
  | .group g => g.items.map (g.place defaults)

/-- The name of a step that is a group. -/
def Step.groupName? : Step → Option String
  | .item _ => none
  | .group g => some g.name

namespace App

theorem groupOptions_eq (a : App) (g : Group) (own : Option RouteOptions) (name : String) :
    a.groupOptions g own name = g.options a.defaultOptions own name := by
  cases own <;> rfl

/-- An item of a group is carried out as it would be by itself. -/
theorem performIn_eq_perform (a : App) (g : Group) (item : Item) :
    performIn g a item = a.perform (g.place a.defaultOptions item) := by
  cases item with
  | filter name filter => rfl
  | route rule methods handler own => rw [performIn, groupOptions_eq]; rfl
  | view rule view own => rw [performIn, groupOptions_eq]; rfl

/-- The items of a group are carried out as they would be by themselves. -/
theorem upToFailure_performIn (a : App) (g : Group) (items : List Item) :
    a.upToFailure (performIn g) items = a.performAll (items.map (g.place a.defaultOptions)) := by
  induction items generalizing a with
  | nil => rfl
  | cons item items ih =>
    have hitem := performIn_eq_perform a g item
    rw [upToFailure, hitem, List.map_cons]
    cases hperform : a.perform (g.place a.defaultOptions item) with
    | error e => rw [performAll_cons_of_error hperform]
    | ok b =>
      -- the default options stay the same from item to item
      have hdefaults : b.defaultOptions = a.defaultOptions := by
        rw [defaultOptions, (frame_of_perform hperform).1]
        rfl
      rw [performAll_cons_of_ok hperform, ← hdefaults]
      exact ih b

/-! ## What succeeds -/

/-- The items before the first that fails when they are carried out one after another. -/
def beforeFailure (a : App) : List Item → List Item
  | [] => []
  | item :: items =>
    match a.perform item with
    | .ok b => item :: b.beforeFailure items
    | .error _ => []

/-- Without the items from the first failure on, nothing fails and the rest is the same. -/
theorem performAll_beforeFailure (a : App) (items : List Item) :
    a.performAll (a.beforeFailure items) = ((a.performAll items).1, none) := by
  induction items generalizing a with
  | nil => rfl
  | cons item items ih =>
    rw [beforeFailure]
    cases hitem : a.perform item with
    | ok b => rw [performAll_cons_of_ok hitem, performAll_cons_of_ok hitem, ih]
    | error e => rw [performAll_cons_of_error hitem]; rfl

/-! ## Flat scripts -/

/-- The items that a script comes to: groups in place of which their items stand, without what fails. -/
def flatten (a : App) : List Step → List Item
  | [] => []
  | step :: script =>
    a.beforeFailure (step.items a.defaultOptions) ++
      (a.performAll (step.items a.defaultOptions)).1.flatten script

/-- The names of the groups of a script all of whose items succeed, in order. -/
def completeGroups (a : App) : List Step → List String
  | [] => []
  | step :: script =>
    (if (a.performAll (step.items a.defaultOptions)).2.isNone then step.groupName?.toList else []) ++
      (a.performAll (step.items a.defaultOptions)).1.completeGroups script

/-- Which groups are complete does not depend on the names of groups. -/
theorem completeGroups_withGroups (a : App) (groups : List String) (script : List Step) :
    (a.withGroups groups).completeGroups script = a.completeGroups script := by
  induction script generalizing a groups with
  | nil => rfl
  | cons step script ih =>
    rw [completeGroups, completeGroups, performAll_withGroups, ih]
    rfl

/-! ## Steps and scripts -/

/-- A step is the items that it comes to, and the name of a group that is complete. -/
theorem take_eq (a : App) (step : Step) :
    a.take step = (a.performAll (step.items a.defaultOptions)).1.withGroups
      (a.groups ++ if (a.performAll (step.items a.defaultOptions)).2.isNone then
        step.groupName?.toList else []) := by
  have hgroups := (frame_of_performAll a (step.items a.defaultOptions)).2
  cases step with
  | item item =>
    rw [take, Step.items, Step.groupName?]
    cases hitem : a.perform item with
    | ok b =>
      rw [performAll_cons_of_ok hitem]
      simp [performAll, upToFailure, ← (frame_of_perform hitem).2]
    | error e =>
      rw [performAll_cons_of_error hitem]
      simp
  | group g =>
    rw [take, addGroup, upToFailure_performIn]
    rw [Step.items] at hgroups ⊢
    rcases h : a.performAll (g.items.map (g.place a.defaultOptions)) with ⟨b, _ | e⟩
    · rw [h] at hgroups
      simp [Step.groupName?, withGroups, ← hgroups]
    · rw [h] at hgroups
      simp [← hgroups]

/-- A script does the same whatever groups there are already, but for their names. -/
theorem setUp_withGroups (a : App) (groups others : List String) (script : List Step) :
    ((a.withGroups groups).setUp script).withGroups others =
      (a.setUp script).withGroups others := by
  induction script generalizing a groups with
  | nil => rfl
  | cons step script ih =>
    rw [setUp_cons, setUp_cons, take_eq, take_eq, performAll_withGroups, withGroups_withGroups, ih]
    exact (ih _ _).symm

/-- The items of the flat script all succeed, and make what the script makes. -/
theorem performAll_flatten (a : App) (script : List Step) :
    a.performAll (a.flatten script) = ((a.setUp script).withGroups a.groups, none) := by
  induction script generalizing a with
  | nil => rfl
  | cons step script ih =>
    rw [flatten, performAll_append (performAll_beforeFailure a _), ih, setUp_cons, take_eq,
      setUp_withGroups, (frame_of_performAll a _).2]

/-- The groups are those that there were and those of the script that are complete. -/
theorem groups_setUp (a : App) (script : List Step) :
    (a.setUp script).groups = a.groups ++ a.completeGroups script := by
  induction script generalizing a with
  | nil => exact (List.append_nil _).symm
  | cons step script ih =>
    rw [setUp_cons, ih, take_eq, completeGroups_withGroups, completeGroups, ← List.append_assoc]
    rfl

/-- **Setup scripts flatten.** Taking the steps of a script and ignoring failures makes the same
application as its flat script, in which nothing fails, but for the names of groups; and these are the
names of the groups all of whose items succeed, in order. -/
theorem setUp_flatten (a : App) (script : List Step) :
    a.performAll (a.flatten script) = ({ a.setUp script with groups := a.groups }, none) ∧
      (a.setUp script).groups = a.groups ++ a.completeGroups script :=
  ⟨performAll_flatten a script, groups_setUp a script⟩

end App

end WebRouting
