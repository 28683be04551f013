import WebRouting.Filter.Registry
import WebRouting.Regex.Escape
import WebRouting.Rule.Token

/-! # Compiled rules

Compiling a rule looks the filter of each parameter up and keeps it: what is registered later does not
matter. A compiled rule is a list of segments, one per token. It serves in both directions, as the
pattern of the paths that it matches and as a template into which values are put. -/

namespace WebRouting.Rule

/-- A part of a compiled rule. -/
inductive Segment where
  /-- Text that a path must contain as it stands. -/
  | literal (text : String)
  /-- A parameter with its filter. -/
  | param (name : String) (filter : Filter)

namespace Segment

/-- The parameter of a segment. -/
def param? : Segment → Option (String × Filter)
  | literal _ => none
  | param name filter => some (name, filter)

/-- The literal text of a segment, empty for a parameter. -/
def literalText : Segment → String
  | literal text => text
  | param .. => ""

/-- The source of the regular expression for a segment: literal text is escaped, and a parameter is a
group named after it. -/
def source : Segment → String
  | literal text => String.ofList (Regex.escape text.toList)
  | param name filter => "(?P<" ++ name ++ ">" ++ filter.pattern ++ ")"

/-- A segment as part of a path: a parameter takes the value, if there is one. -/
def render (s : Segment) (value : Option Value) : Option String :=
  match s with
  | literal text => some text
  | param _ filter => value.map filter.encode

/-- The segment as it is shown for inspection. -/
def inspect : Segment → String
  | literal text => Inspect.wrapped "Literal" (Inspect.quoted text)
  | param name _ => Inspect.record "Param" [("name", Inspect.quoted name)] true

end Segment

/-- A compiled rule. -/
structure Compiled where
  /-- Its segments in order. -/
  segments : List Segment

namespace Compiled

/-- The parameters in order. -/
def params (c : Compiled) : List (String × Filter) := c.segments.filterMap Segment.param?

/-- The names of the parameters in order. -/
def paramNames (c : Compiled) : List String := c.params.map Prod.fst

/-- Whether the rule has no parameters. -/
def isStatic (c : Compiled) : Bool := c.params.isEmpty

/-- The text of a rule without parameters. -/
def text (c : Compiled) : String := String.join (c.segments.map Segment.literalText)

/-- The source of the regular expression for the whole rule. -/
def source (c : Compiled) : String := String.join (c.segments.map Segment.source)

/-- What a path is compared with: the text of a rule without parameters, and otherwise a regular
expression. -/
def pattern (c : Compiled) : String := if c.isStatic then c.text else c.source

/-- The compiled rule as it is shown for inspection. -/
def inspect (c : Compiled) : String :=
  Inspect.record "CompiledRule"
    [("pattern", Inspect.quoted c.pattern),
     ("params", Inspect.sequence (c.paramNames.map Inspect.quoted)),
     ("builder", Inspect.sequence (c.segments.map Segment.inspect)),
     ("is_static", Inspect.truth c.isStatic)] false

end Compiled

/-- Why a rule could not be compiled. -/
inductive CompileError where
  /-- Two parameters have the same name. -/
  | duplicateParam (name : String)
  /-- A filter is not registered. -/
  | unknownFilter (filter : String)
deriving DecidableEq

/-- Compiles tokens that follow parameters with given names. -/
def compileTokens (registry : Registry) (names : List String) :
    List Token → Except CompileError (List Segment)
  | [] => .ok []
  | .literal text :: tokens => do
    return .literal text :: (← compileTokens registry names tokens)
  | .param filter name :: tokens =>
    if name ∈ names then .error (.duplicateParam name)
    else
      match registry.find? filter with
      | none => .error (.unknownFilter filter)
      | some spec => do
        return .param name spec :: (← compileTokens registry (name :: names) tokens)

/-- Compiles a rule with the filters of a registry. -/
def compile (registry : Registry) (rule : String) : Except CompileError Compiled :=
  (compileTokens registry [] (tokenize rule)).map Compiled.mk

/-- The pieces of a path: parameters take the values in turn, and those for which no value is left give
no piece. -/
def renderSegments (values : List Value) : List Segment → List (Option String)
  | [] => []
  | s@(.literal _) :: segments => s.render none :: renderSegments values segments
  | s@(.param ..) :: segments => s.render values.head? :: renderSegments values.tail segments

end WebRouting.Rule
