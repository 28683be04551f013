import WebRouting.Number.Shortest

/-! # Values of path parameters

What a segment of a path is decoded to. A value has one text, used in error messages, in URLs built
from values, and wherever a handler asks for the parameter as text. -/

namespace WebRouting

/-- A decoded path parameter. -/
inductive Value where
  /-- Text. -/
  | string (text : String)
  /-- An integer of 64 bits. -/
  | int (n : Int64)
  /-- A double-precision number. -/
  | float (x : Double)
  /-- A truth value. -/
  | bool (b : Bool)
deriving DecidableEq

/-- The kinds of values. -/
inductive ValueKind where
  /-- Text. -/
  | string
  /-- Integers. -/
  | int
  /-- Double-precision numbers. -/
  | float
  /-- Truth values. -/
  | bool
deriving DecidableEq

/-- The word for a kind of values. -/
def ValueKind.name : ValueKind → String
  | .string => "string"
  | .int => "int"
  | .float => "float"
  | .bool => "bool"

namespace Value

/-- The kind of a value. -/
def kind : Value → ValueKind
  | .string _ => .string
  | .int _ => .int
  | .float _ => .float
  | .bool _ => .bool

/-- The text of a value. A float is in plain decimal and never looks like an integer. -/
def text : Value → String
  | .string s => s
  | .int n => String.ofList (Numeral.writeInt n.toInt)
  | .float x => String.ofList x.plainText
  | .bool b => if b then "true" else "false"

/-! ## Views -/

/-- The text of a string value. -/
def string? : Value → Option String
  | .string s => some s
  | _ => none

/-- The integer of an integer value. -/
def int? : Value → Option Int64
  | .int n => some n
  | _ => none

/-- The number of a float value, and the nearest double of an integer value. -/
def float? : Value → Option Double
  | .float x => some x
  | .int n => some (.ofInt n.toInt)
  | _ => none

/-- The truth value of a Boolean value. -/
def bool? : Value → Option Bool
  | .bool b => some b
  | _ => none

@[simp] theorem text_string (s : String) : (string s).text = s := rfl

@[simp] theorem kind_string (s : String) : (string s).kind = .string := rfl

@[simp] theorem kind_int (n : Int64) : (int n).kind = .int := rfl

@[simp] theorem kind_float (x : Double) : (float x).kind = .float := rfl

@[simp] theorem kind_bool (b : Bool) : (bool b).kind = .bool := rfl

end Value

/-- Reads a truth value: `true` or `false` and nothing else. -/
def readBool? (s : String) : Option Bool :=
  if s = "true" then some true else if s = "false" then some false else none

end WebRouting
