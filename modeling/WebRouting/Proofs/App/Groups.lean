import WebRouting.App
import WebRouting.Proofs.Route.Faults
import WebRouting.Proofs.Rule.Join

/-! # Rules of groups

A rule of a group says what the root of the group says and then what the rule says, with a slash between
them (`Group.tokenize_rule`). A handler that a group registers has to take as many parameters as both
have together. -/

namespace WebRouting

open Rule

/-! ## Handlers of items -/

/-- The handler that an item of a group registers at a rule, with its methods and its options. A view
registers the one handler that it stands for. -/
inductive Item.Registers (g : Group) (rule : String) :
    Item → List String → Handler → Option RouteOptions → Prop where
  /-- A route to a handler. -/
  | route {methods : List String} {handler : Handler} {own : Option RouteOptions} :
      Registers g rule (.route rule methods handler own) methods handler own
  /-- A route to a view whose handlers agree. -/
  | view {view : View} {handler : Handler} {own : Option RouteOptions}
      (h : view.handler (g.rule rule) = .ok handler) :
      Registers g rule (.view rule view own) view.methods.toList handler own

namespace App

variable {a : App} {g : Group} {item : Item} {rule : String} {methods : List String}
  {handler : Handler} {own : Option RouteOptions}

/-- A view and the handler that it stands for have the same name. -/
theorem name_of_view_handler {view : View} (h : view.handler rule = .ok handler) :
    handler.name = view.name := by
  rw [View.handler] at h
  split at h <;> cases h
  rfl

/-- An item of a group adds its handler at the rule of the group. -/
theorem performIn_of_registers (h : item.Registers g rule methods handler own) :
    performIn g a item =
      a.addRoute (g.rule rule) methods handler (a.groupOptions g own handler.name) := by
  cases h with
  | route => rfl
  | view hview =>
    rw [performIn, addView, hview, name_of_view_handler hview]
    rfl

theorem addRoute_eq_error_iff {options : RouteOptions} {e : RouteError} :
    a.addRoute rule methods handler options = .error e ↔
      Route.build a.filters rule methods handler options = .error e := by
  rw [addRoute]
  cases Route.build a.filters rule methods handler options with
  | error e' =>
    constructor <;>
    · rintro ⟨⟩
      rfl
  | ok route => exact ⟨nofun, nofun⟩

end App

/-! ## Rules of groups -/

/-- The handler takes another number of parameters than the root of the group and the rule have together,
this is checked, and nothing that counts before it is wrong. -/
structure Group.Mismatch (g : Group) (rule : String) (a : App) (methods : List String)
    (handler : Handler) (own : Option RouteOptions) (endpoint : String) (expected found : Nat) :
    Prop where
  /-- The methods are verbs, at least one. -/
  methods : MethodSet.AreVerbs methods
  /-- No placeholder is at fault. -/
  placeholders : Sound a.filters (tokenize (g.rule rule))
  /-- The number of parameters is checked. -/
  checking : (own.getD a.defaultOptions).checking = true
  /-- The endpoint is under the name of the group. -/
  endpoint_eq : endpoint = g.endpoint ((own.bind RouteOptions.endpoint).getD handler.name)
  /-- All parameters of the root and of the rule are asked for. -/
  expected_eq :
    expected = (parameters (tokenize g.root)).length + (parameters (tokenize rule)).length
  /-- The handler accepts its own number. -/
  found_eq : found = handler.arity
  /-- The numbers differ. -/
  ne : expected ≠ found

/-- **Rules of groups.** If the root leaves no placeholder open, a rule of a group says what is left of the
root says, then a slash, and then what is left of the rule says, with neighbouring text put together. So
its parameters are those of the root and then those of the rule, and an item of the group is refused for
their number exactly if it is not the one that the handler takes. -/
theorem Group.tokenize_rule (g : Group) (rule : String) (hroot : g.root ≠ "") (hrule : rule ≠ "")
    (hclosed : Closed g.root.toList) :
    (∃ before after, Seam g.root rule before after ∧ tokenize (g.rule rule) =
      merge (tokenize (String.ofList before) ++
        .literal "/" :: tokenize (String.ofList after))) ∧
      parameters (tokenize (g.rule rule)) =
        parameters (tokenize g.root) ++ parameters (tokenize rule) ∧
      ∀ (a : App) (item : Item) (methods : List String) (handler : Handler)
        (own : Option RouteOptions) (endpoint : String) (expected found : Nat),
        item.Registers g rule methods handler own →
          (App.performIn g a item =
              .error (.arityMismatch (g.rule rule) endpoint expected found) ↔
            g.Mismatch rule a methods handler own endpoint expected found) := by
  obtain ⟨htokens, hparameters⟩ := tokenize_join hroot hrule hclosed
  refine ⟨htokens, hparameters, fun a item methods handler own endpoint expected found hitem => ?_⟩
  have hcount : Route.paramCount (g.rule rule) =
      (parameters (tokenize g.root)).length + (parameters (tokenize rule)).length := by
    rw [Route.paramCount, placeholders_eq_map, List.length_map, Group.rule, hparameters,
      List.length_append]
  have hendpoint : (a.groupOptions g own handler.name).endpoint.getD handler.name =
      g.endpoint ((own.bind RouteOptions.endpoint).getD handler.name) := by
    cases own <;> rfl
  have hchecking : (a.groupOptions g own handler.name).checking =
      (own.getD a.defaultOptions).checking := by
    cases own <;> rfl
  rw [App.performIn_of_registers hitem, App.addRoute_eq_error_iff, Route.build_eq_arityMismatch_iff,
    hcount, hchecking]
  constructor
  · rintro ⟨hmethods, hsound, hcheck, hne, rfl, rfl, rfl⟩
    exact ⟨hmethods, hsound, hcheck, hendpoint, rfl, rfl, hne⟩
  · rintro ⟨hmethods, hsound, hcheck, rfl, rfl, rfl, hne⟩
    exact ⟨hmethods, hsound, hcheck, hne, hendpoint.symm, rfl, rfl⟩

/-- A group whose root ends with a backslash and slashes. -/
def profileGroup : Group := { name := "users", root := "/users/<int:id>\\//" }

/-- A handler of one parameter. -/
def profileHandler : Handler := .typed "profile" [.string] fun _ (page, ()) => .ok page

/-- The backslash of the root escapes nothing in the rule, and the handler lacks a parameter. -/
theorem Group.tokenize_rule_profileGroup :
    profileGroup.root ≠ "" ∧ "//<page>" ≠ "" ∧ Closed profileGroup.root.toList ∧
      parameters (tokenize (profileGroup.rule "//<page>")) = [("int", "id"), ("default", "page")] ∧
      Item.Registers profileGroup "//<page>" (.route "//<page>" ["GET"] profileHandler none) ["GET"]
        profileHandler none ∧
      App.performIn profileGroup {} (.route "//<page>" ["GET"] profileHandler none) =
        .error (.arityMismatch (profileGroup.rule "//<page>") "users.profile" 2 1) := by
  have hroot : profileGroup.root ≠ "" := by decide
  have hrule : "//<page>" ≠ "" := by decide
  have hclosed : Closed profileGroup.root.toList := by decide
  obtain ⟨-, hparameters, hcount⟩ := Group.tokenize_rule profileGroup "//<page>" hroot hrule hclosed
  have hrootParameters : parameters (tokenize profileGroup.root) = [("int", "id")] := by cbv
  have hruleParameters : parameters (tokenize "//<page>") = [("default", "page")] := by cbv
  have htokens : tokenize (profileGroup.rule "//<page>") =
      [.literal "/users/", .param "int" "id", .literal "\\/", .param "default" "page"] := by cbv
  have hsound : Sound Registry.builtin (tokenize (profileGroup.rule "//<page>")) := by
    rw [htokens]
    refine ⟨by decide, fun filter name hmem => ?_⟩
    obtain ⟨rfl, -⟩ | ⟨rfl, -⟩ : filter = "int" ∧ name = "id" ∨ filter = "default" ∧ name = "page" := by
      simpa using hmem
    · decide +kernel
    · decide +kernel
  have hmethods : MethodSet.AreVerbs ["GET"] := ⟨by decide, by simp [MethodSet.IsVerb]⟩
  refine ⟨hroot, hrule, hclosed, by rw [hparameters, hrootParameters, hruleParameters]; rfl, .route,
    (hcount _ _ _ _ _ _ _ _ .route).mpr ⟨hmethods, hsound, rfl, by decide, ?_, rfl, by decide⟩⟩
  rw [hrootParameters, hruleParameters]
  rfl

end WebRouting
