import WebRouting.Value

/-! # Parameters of handlers

The types in which a handler can ask for its parameters, and the conversion of values to them. Text is
obtained from every value, a number only from a number that fits. -/

namespace WebRouting

/-- A type of parameters. -/
inductive ParamType where
  /-- The text of a value. -/
  | string
  /-- An integer of 64 bits. -/
  | int64
  /-- An integer of 32 bits. -/
  | int32
  /-- A natural number of 64 bits. -/
  | uint64
  /-- A double-precision number. -/
  | float
  /-- A truth value. -/
  | bool
  /-- The value itself. -/
  | any
deriving DecidableEq

/-- The values of a type. -/
abbrev ParamType.Carrier : ParamType → Type
  | string => String
  | int64 => Int64
  | int32 => Int32
  | uint64 => UInt64
  | float => Double
  | bool => Bool
  | any => Value

/-- What a conversion needed. -/
inductive Expectation where
  /-- An integer. -/
  | int
  /-- An integer that fits 32 bits. -/
  | int32
  /-- A natural number. -/
  | unsigned
  /-- A number. -/
  | float
  /-- A truth value. -/
  | bool
deriving DecidableEq

/-- The word for what was needed. -/
def Expectation.name : Expectation → String
  | int => "int"
  | int32 => "i32"
  | unsigned => "unsigned int"
  | float => "float"
  | bool => "bool"

/-- Why a parameter is not what a handler asks for. -/
inductive ConversionError where
  /-- The value does not convert. -/
  | mismatch (expected : Expectation) (found : ValueKind)
  /-- There is no value. -/
  | missing (position : Nat)
deriving DecidableEq

/-- The wording of an error. -/
def ConversionError.message : ConversionError → String
  | mismatch expected found => "expected " ++ expected.name ++ ", got " ++ found.name
  | missing position =>
    "missing path parameter at position " ++ String.ofList (Numeral.writeNat position)

namespace Value

/-- The result of a view, or the error that says what was needed. -/
def expect {α : Type} (v : Value) (expected : Expectation) (view : Option α) :
    Except ConversionError α :=
  match view with
  | some a => .ok a
  | none => .error (.mismatch expected v.kind)

/-- Converts an integer that meets a condition. -/
def toRange {α : Type} (v : Value) (expected : Expectation) (fits : Int → Bool)
    (convert : Int → α) : Except ConversionError α := do
  let n ← v.expect .int v.int?
  if fits n.toInt then .ok (convert n.toInt) else .error (.mismatch expected v.kind)

/-- Converts a value to a type of parameters. -/
def toParam (v : Value) : (t : ParamType) → Except ConversionError t.Carrier
  | .string => .ok v.text
  | .int64 => v.expect .int v.int?
  | .int32 =>
    v.toRange .int32 (fun n => Int32.minValue.toInt ≤ n && n ≤ Int32.maxValue.toInt) Int32.ofInt
  | .uint64 => v.toRange .unsigned (fun n => 0 ≤ n) fun n => UInt64.ofNat n.toNat
  | .float => v.expect .float v.float?
  | .bool => v.expect .bool v.bool?
  | .any => .ok v

end Value

/-- The arguments of a handler, one of each type. -/
abbrev Arguments : List ParamType → Type
  | [] => Unit
  | t :: types => t.Carrier × Arguments types

/-- Converts values to arguments from left to right, the first one having a given position. -/
def takeArguments (position : Nat) (values : List Value) :
    (types : List ParamType) → Except ConversionError (Arguments types)
  | [] => .ok ()
  | t :: types => do
    match values with
    | [] => .error (.missing position)
    | v :: values =>
      let first ← v.toParam t
      let rest ← takeArguments (position + 1) values types
      return (first, rest)

end WebRouting
