import WebRouting.Filter.Basic
import WebRouting.Text.Collection

/-! # Errors of routing

Why a route could not be made, and why a request could not be given to one. -/

namespace WebRouting

/-- What is wrong with the methods given for a route. -/
inductive MethodsFault where
  /-- A method is not written in capital letters. -/
  | notUppercase (method : String)
  /-- No method is given. -/
  | noMethod
deriving DecidableEq

/-- The wording of a fault. -/
def MethodsFault.reason : MethodsFault → String
  | notUppercase method => "'" ++ method ++ "' is not an uppercase HTTP verb"
  | noMethod => "at least one method is required"

/-- Why a route could not be made. -/
inductive RouteError where
  /-- The rule uses a filter that is not registered. -/
  | unknownFilter (rule filter : String)
  /-- The handler does not take as many parameters as the rule has. -/
  | arityMismatch (rule endpoint : String) (expected found : Nat)
  /-- The methods are no methods. -/
  | invalidMethods (rule : String) (fault : MethodsFault)
  /-- The rule uses a parameter name twice. -/
  | duplicateParam (rule name : String)
  /-- The patterns of the filters do not make a regular expression together. -/
  | invalidPattern (rule : String)
deriving DecidableEq

/-- The wording of an error. -/
def RouteError.message : RouteError → String
  | unknownFilter rule filter =>
    "url filter '" ++ filter ++ "' used by rule '" ++ rule ++ "' is not registered; " ++
      "register it before compiling rules that use it"
  | arityMismatch rule endpoint expected found =>
    "rule '" ++ rule ++ "' asks for " ++ Inspect.count expected ++ " params, but endpoint '" ++
      endpoint ++ "' accepts " ++ Inspect.count found
  | invalidMethods rule fault => "invalid methods for rule '" ++ rule ++ "': " ++ fault.reason
  | duplicateParam rule name => "rule '" ++ rule ++ "' declares parameter '" ++ name ++
      "' more than once"
  | invalidPattern rule => "rule '" ++ rule ++ "' compiles to an invalid pattern"

/-- Why a request has no answer. -/
inductive ResolveError where
  /-- No route matches the path. -/
  | notFound (path : String)
  /-- Routes match the path, but not for this method. -/
  | methodNotAllowed (path method : String) (allowed : NameSet)
  /-- A route matches, but a segment of the path cannot be decoded. -/
  | badRequest (rule param : String) (source : DecodeError)

/-- The wording of an error. -/
def ResolveError.message : ResolveError → String
  | notFound path => "no route matches '" ++ path ++ "'"
  | methodNotAllowed path method _ => "method " ++ method ++ " is not allowed for '" ++ path ++ "'"
  | badRequest rule param _ => "bad value for parameter '" ++ param ++ "' of rule '" ++ rule ++ "'"

/-- The status of the answer to a request without one. -/
def ResolveError.status : ResolveError → Nat
  | notFound _ => 404
  | methodNotAllowed .. => 405
  | badRequest .. => 400

end WebRouting
