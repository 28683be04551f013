import WebRouting.App

/-! # Dispatch

How an application answers a request: its path is decoded and resolved first, and only for a route
that is found the body is looked at and the handler called. A request that gets no answer fails at one of
these three steps, and its response is that of the failure. -/

namespace WebRouting

/-- The greatest size of a body in bytes. -/
def bodyLimit : Nat := 2 * 1024 * 1024

/-- The response to a request that has no answer. -/
def ResolveError.response (e : ResolveError) : Response :=
  match e with
  | .notFound _ => .text "Not Found" 404
  | .methodNotAllowed _ _ allowed => .methodNotAllowed allowed.toList
  | .badRequest _ _ source =>
    .text ("Bad Request: " ++ e.message ++ ": " ++ source.message) 400

/-- Why a request gets no answer. -/
inductive Failure where
  /-- There is no route for it. -/
  | unresolved (e : ResolveError)
  /-- Its body is too large. -/
  | tooLarge
  /-- The handler of its route does not answer. -/
  | unhandled (fault : Fault)

/-- The response to a request that gets no answer. -/
def Failure.response : Failure → Response
  | unresolved e => e.response
  | tooLarge => .text "Payload Too Large" 413
  | unhandled fault => fault.response

namespace App

/-- The answer to a request. -/
def answer (a : App) (r : Request) : Except Failure Response :=
  match a.router.resolve (Url.decodePath r.target.path) r.method with
  | .error e => .error (.unresolved e)
  | .ok found =>
    if bodyLimit < r.body.size then .error .tooLarge
    else (found.route.handler.answer (.ofRequest r) found.params).mapError .unhandled

/-- The response to a request: its answer, or what its failure gives. -/
def respond (a : App) (r : Request) : Response :=
  match a.answer r with
  | .ok response => response
  | .error failure => failure.response

end App

end WebRouting
