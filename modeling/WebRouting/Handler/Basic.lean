import WebRouting.Context
import WebRouting.Handler.Param
import WebRouting.Route.Basic

/-! # Handlers

A handler answers a request, given its context and the decoded parameters of the path. `Handler.typed`
makes one of a function whose parameters have types: it refuses the wrong number of parameters, which
is a fault of the server, and parameters that do not convert, which is a fault of the client. A `Fault`
says why there is no answer, and has a response of its own. -/

namespace WebRouting

/-! ## Faults -/

/-- Why a handler does not answer. -/
inductive Fault where
  /-- The number of parameters is not the one that it takes. -/
  | wrongCount
  /-- A parameter does not convert. -/
  | unconverted (e : ConversionError)
  /-- It is a view, which has no handler for the method but those for others. -/
  | noHandler (methods : NameSet)

/-- The response to a fault. -/
def Fault.response : Fault → Response
  | wrongCount => .text "Internal Server Error" 500
  | unconverted e => .text ("Bad Request: " ++ e.message) 400
  | noHandler methods => .methodNotAllowed methods.toList

/-! ## Handlers -/

/-- A handler. -/
structure Handler where
  /-- Its name. -/
  name : String
  /-- How many parameters it takes. -/
  arity : Nat
  /-- Its answer, or the fault for which it has none. -/
  answer : Context → List Value → Except Fault Response

namespace Handler

instance : Target Handler where
  name := Handler.name
  arity := Handler.arity

/-- The response of a handler: its answer, or what its fault gives. -/
def respond (h : Handler) (c : Context) (params : List Value) : Response :=
  match h.answer c params with
  | .ok response => response
  | .error fault => fault.response

/-- No answer to a wrong number of parameters. -/
def wrongCount : Except Fault Response := .error .wrongCount

/-- The answer of a function with typed parameters. -/
def call (types : List ParamType) (f : Context → Arguments types → Response) (c : Context)
    (params : List Value) : Except Fault Response :=
  if params.length ≠ types.length then wrongCount
  else
    match takeArguments 0 params types with
    | .error e => .error (.unconverted e)
    | .ok arguments => .ok (f c arguments)

/-- The handler of a function with typed parameters. -/
def typed (name : String) (types : List ParamType)
    (f : Context → Arguments types → Response) : Handler where
  name
  arity := types.length
  answer := call types f

/-- The handler as it is shown for inspection. -/
def inspect (h : Handler) : String :=
  Inspect.record "BoxedHandler"
    [("name", Inspect.quoted h.name), ("arity", Inspect.count h.arity)] false

end Handler

end WebRouting
