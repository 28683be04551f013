import WebRouting.Text.Inspect
import WebRouting.Value

/-! # Filters

A filter says which segments of a path a placeholder accepts, how an accepted segment becomes a
value, and how a value becomes a segment again. The pattern may accept more than decoding can read:
then a request is malformed rather than unknown. -/

namespace WebRouting

/-- Why a segment that a pattern accepted could not be decoded. -/
inductive DecodeError where
  /-- The segment does not spell a value of the expected sort. -/
  | invalid (raw expected : String)
  /-- A filter's own reason. -/
  | custom (reason : String)
deriving DecidableEq

/-- The wording of a decoding error. -/
def DecodeError.message : DecodeError → String
  | .invalid raw expected => "'" ++ raw ++ "' is not a valid " ++ expected
  | .custom reason => reason

/-- A filter: the pattern of the segments and the conversions in both directions. -/
structure Filter where
  /-- The source of the regular expression for a segment. -/
  pattern : String
  /-- Reads a segment. -/
  decode : String → Except DecodeError Value
  /-- Writes a value as a segment. -/
  encode : Value → String

namespace Filter

/-- The value read by a conversion that may fail, or the error that names what was expected. -/
def decodeWith (expected : String) (read? : String → Option Value) (raw : String) :
    Except DecodeError Value :=
  match read? raw with
  | some v => .ok v
  | none => .error (.invalid raw expected)

/-! ## Built-in filters -/

/-- Any nonempty segment, as text. -/
def string : Filter where
  pattern := "[^/]+"
  decode raw := .ok (.string raw)
  encode := Value.text

/-- Reads an integer of 64 bits. The pattern admits the digits of every script and any number of
them; decoding reads ASCII digits within the range. -/
def decodeInt : String → Except DecodeError Value :=
  decodeWith "int" fun raw => (Numeral.readInt64? raw.toList).map .int

/-- Writes a value as an integer where it is a number: floats lose their fraction. -/
def encodeInt : Value → String
  | .float x => (Value.int x.toInt64).text
  | v => v.text

/-- Signed integers. -/
def int : Filter where
  pattern := "-?\\d+"
  decode := decodeInt
  encode := encodeInt

/-- Reads a double-precision number. -/
def decodeFloat : String → Except DecodeError Value :=
  decodeWith "float" fun raw => (Double.read? raw.toList).map .float

/-- Writes a value as a float where it is a number: integers are rounded to a double first. -/
def encodeFloat : Value → String
  | .int n => (Value.float (.ofInt n.toInt)).text
  | v => v.text

/-- Signed decimal numbers. -/
def float : Filter where
  pattern := "-?[\\d.]+"
  decode := decodeFloat
  encode := encodeFloat

/-- Reads a truth value. -/
def decodeBool : String → Except DecodeError Value :=
  decodeWith "bool" fun raw => (readBool? raw).map .bool

/-- The filter as it is shown for inspection: its conversions are hidden. -/
def inspect (f : Filter) : String :=
  Inspect.record "FilterSpec" [("pattern", Inspect.quoted f.pattern)] true

end Filter

end WebRouting
