import WebRouting.Regex.Match
import WebRouting.Regex.Reader
import WebRouting.Route.Error
import WebRouting.Rule.Compile

/-! # Routes

A route ties a rule and a set of methods to a handler. `Route.build` checks all that can be checked
before a request comes: the methods, the rule, the number of the handler's parameters and the pattern.
`Route.match?` compares a route with a request and decodes the parameters. -/

namespace WebRouting

/-! ## Methods -/

/-- A nonempty set of methods. -/
structure MethodSet where
  /-- The methods. -/
  names : NameSet
  /-- There is one. -/
  nonempty : names.isEmpty = false

namespace MethodSet

/-- Whether a text may be a method of a route: capital ASCII letters, at least one. -/
def isMethodName (method : String) : Bool :=
  method ≠ "" && method.toList.all Char.isUpper

/-- The set of the methods in a list. -/
def ofList (methods : List String) : Except MethodsFault MethodSet :=
  match methods.find? (!isMethodName ·) with
  | some method => .error (.notUppercase method)
  | none =>
    let names := NameSet.ofNames methods
    if h : names.isEmpty = false then .ok ⟨names, h⟩ else .error .noMethod

/-- Whether a method is in the set. -/
def contains (s : MethodSet) (method : String) : Bool := s.names.contains method

/-- The methods in increasing order. -/
def toList (s : MethodSet) : List String := s.names.toList

end MethodSet

/-! ## Routes -/

/-- What a route needs to know of its handler. -/
class Target (η : Type) where
  /-- The name of a handler. -/
  name : η → String
  /-- How many parameters a handler takes. -/
  arity : η → Nat

/-- Choices in making a route. -/
structure RouteOptions where
  /-- The name of the endpoint. Without one it has the handler's name. -/
  endpoint : Option String := none
  /-- Whether the number of the handler's parameters is checked. -/
  checking : Bool := true

/-- How a route compares paths. -/
inductive Matcher where
  /-- With one text. -/
  | exact (text : String)
  /-- With a regular expression, kept beside its source. -/
  | regex (source : String) (expression : Regex)

/-- A route to a handler of type `η`. -/
structure Route (η : Type) where
  /-- The rule. -/
  rule : String
  /-- The methods. -/
  methods : MethodSet
  /-- The handler. -/
  handler : η
  /-- The name of the endpoint. -/
  endpoint : String
  /-- The compiled rule. -/
  compiled : Rule.Compiled
  /-- How paths are compared. -/
  matcher : Matcher

namespace Matcher

/-- The regular expression for a whole path, given the one for what is between its ends. -/
def anchored (source : String) : String := "^(?:" ++ source ++ ")$"

/-- The matcher of a compiled rule, unless its pattern means nothing. -/
def ofCompiled? (c : Rule.Compiled) : Option Matcher :=
  if c.isStatic then some (.exact c.text)
  else (Regex.read? (anchored c.source).toList).map (.regex c.source)

/-- What is compared, as text. -/
def pattern : Matcher → String
  | exact text => text
  | regex source _ => source

end Matcher

namespace Route

variable {η : Type}

/-- The error of a route whose rule could not be compiled. -/
def compileError (rule : String) : Rule.CompileError → RouteError
  | .duplicateParam name => .duplicateParam rule name
  | .unknownFilter filter => .unknownFilter rule filter

/-- Makes a route. Of several faults the methods come first, then the rule, then the number of
parameters and last the pattern. -/
def build [Target η] (registry : Registry) (rule : String) (methods : List String) (handler : η)
    (options : RouteOptions) : Except RouteError (Route η) := do
  let methods ← (MethodSet.ofList methods).mapError (.invalidMethods rule)
  let endpoint := options.endpoint.getD (Target.name handler)
  let compiled ← (Rule.compile registry rule).mapError (compileError rule)
  let expected := compiled.params.length
  let found := Target.arity handler
  if options.checking ∧ expected ≠ found then
    .error (.arityMismatch rule endpoint expected found)
  else
    match Matcher.ofCompiled? compiled with
    | none => .error (.invalidPattern rule)
    | some matcher => .ok { rule, methods, handler, endpoint, compiled, matcher }

/-- Whether the route has the method. -/
def allows (r : Route η) (method : String) : Bool := r.methods.contains method

/-- What the route compares paths with, as text. -/
def pattern (r : Route η) : String := r.matcher.pattern

/-- The text of the only path that the route matches, if its rule has no parameters. -/
def staticKey? (r : Route η) : Option String :=
  match r.matcher with
  | .exact text => some text
  | .regex .. => none

/-- Whether the rule has no parameters. -/
def isStatic (r : Route η) : Bool := r.staticKey?.isSome

/-! ## Matching -/

/-- Decodes a parameter, whose text is that of its group. -/
def decodeParam (rule : String) (c : Cursor) (param : String × Filter) :
    Except ResolveError Value :=
  (param.2.decode (c.captured param.1)).mapError (.badRequest rule param.1)

/-- Whether the route matches a path, for any method. -/
def matchesPath (r : Route η) (path : String) : Bool :=
  match r.matcher with
  | .exact text => text = path
  | .regex _ expression => expression.isMatch path

/-- Compares the route with a request. A route that matches gives the decoded parameters in order or
the first failure of decoding one. -/
def match? (r : Route η) (path method : String) : Option (Except ResolveError (List Value)) :=
  if !r.allows method then none
  else
    match r.matcher with
    | .exact text => if text = path then some (.ok []) else none
    | .regex _ expression =>
      (expression.search path).map fun last => r.compiled.params.mapM (decodeParam r.rule last)

/-- The route as it is shown for inspection: its handler is hidden. -/
def inspect (r : Route η) : String :=
  Inspect.record "Route"
    [("rule", Inspect.quoted r.rule),
     ("methods", Inspect.set (r.methods.toList.map Inspect.quoted)),
     ("endpoint", Inspect.quoted r.endpoint), ("pattern", Inspect.quoted r.pattern),
     ("is_static", Inspect.truth r.isStatic)] true

end Route

end WebRouting
