import WebRouting.Handler.Basic

/-! # Views

A view has a handler for each of some methods and stands for one handler that picks among them. All of
them take the same number of parameters, for they share one rule. -/

namespace WebRouting

/-! ## Verbs -/

/-- The methods for which a view can have a handler. -/
inductive Verb where
  /-- GET. -/
  | get
  /-- POST. -/
  | post
  /-- HEAD. -/
  | head
  /-- OPTIONS. -/
  | options
  /-- DELETE. -/
  | delete
  /-- PUT. -/
  | put
  /-- TRACE. -/
  | trace
  /-- PATCH. -/
  | patch
deriving DecidableEq

namespace Verb

/-- All verbs in the order in which a view looks at them. -/
def all : List Verb := [get, post, head, options, delete, put, trace, patch]

/-- The method of a verb. -/
def method : Verb → String
  | get => "GET"
  | post => "POST"
  | head => "HEAD"
  | options => "OPTIONS"
  | delete => "DELETE"
  | put => "PUT"
  | trace => "TRACE"
  | patch => "PATCH"

/-- The verb of a method, written in any case. -/
def ofMethod? (method : String) : Option Verb :=
  all.find? fun verb => verb.method = method.map Char.toUpper

theorem mem_all (verb : Verb) : verb ∈ all := by cases verb <;> decide

end Verb

/-! ## Views -/

/-- Handlers by verb. -/
structure View where
  /-- The name. -/
  name : String
  /-- The handler for a verb, if there is one. -/
  handlers : Verb → Option Handler

namespace View

/-- A view without handlers. -/
def empty (name : String) : View := { name, handlers := fun _ => none }

/-- Gives a verb a handler, in place of the one that it may have. -/
def on (v : View) (verb : Verb) (handler : Handler) : View :=
  { v with handlers := fun other => if other = verb then some handler else v.handlers other }

/-- The handlers in the order of their verbs. -/
def attached (v : View) : List Handler := Verb.all.filterMap v.handlers

/-- The methods that have a handler. -/
def methods (v : View) : NameSet :=
  .ofNames ((Verb.all.filter fun verb => (v.handlers verb).isSome).map Verb.method)

/-- The handler that takes another number of parameters than the first one, and both numbers. -/
def disagreement? (v : View) : Option (Handler × Nat × Nat) :=
  match v.attached with
  | [] => none
  | first :: rest =>
    (rest.find? (·.arity ≠ first.arity)).map fun other => (other, first.arity, other.arity)

/-- The answer of the handler for the method of the request. -/
def answer (v : View) (c : Context) (params : List Value) : Except Fault Response :=
  match (Verb.ofMethod? c.method).bind v.handlers with
  | some handler => handler.answer c params
  | none => .error (.noHandler v.methods)

/-- The one handler that a view stands for at a rule. -/
def handler (v : View) (rule : String) : Except RouteError Handler :=
  match v.disagreement? with
  | some (other, expected, found) =>
    .error (.arityMismatch rule (v.name ++ "." ++ other.name) expected found)
  | none =>
    .ok { name := v.name, arity := (v.attached.head?.map Handler.arity).getD 0, answer := v.answer }

/-- The view as it is shown for inspection. -/
def inspect (v : View) : String :=
  Inspect.record "MethodView"
    [("name", Inspect.quoted v.name),
     ("methods", Inspect.set (v.methods.toList.map Inspect.quoted))] false

@[simp] theorem handlers_on_self (v : View) (verb : Verb) (handler : Handler) :
    (v.on verb handler).handlers verb = some handler := by
  simp [on]

theorem handlers_on_of_ne (v : View) {verb other : Verb} (handler : Handler) (h : other ≠ verb) :
    (v.on verb handler).handlers other = v.handlers other := by
  simp [on, h]

end View

end WebRouting
