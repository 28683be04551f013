import WebRouting.Number.Numeral
import WebRouting.Text.Split

/-! # Command line

The arguments of the server: three options, each with a value that is attached or follows, and requests
for help or the version. A value that follows its option is looked at only when the next known option
or the end comes, so that an unknown argument after it is reported in its place. -/

namespace WebRouting

/-- Why there is nothing to run. -/
inductive CommandError where
  /-- An argument is none of the options. -/
  | unknownArgument
  /-- An option lacks its value, or the value is empty where it must not be. -/
  | invalidValue
  /-- A value is not of its option's type. -/
  | valueValidation
  /-- An option is given twice. -/
  | argumentConflict
  /-- A value is attached to an option without one. -/
  | tooManyValues
  /-- Help is asked for. -/
  | displayHelp
  /-- The version is asked for. -/
  | displayVersion
deriving DecidableEq

/-- What the arguments say. -/
structure CommandLine where
  /-- The path of the configuration. -/
  config : String := "freesia.toml"
  /-- The host, in place of the configured one. -/
  host : Option String := none
  /-- The port, in place of the configured one. -/
  port : Option Nat := none
deriving DecidableEq

namespace CommandLine

/-! ## Options -/

/-- An option with a value. -/
inductive Setting where
  /-- The path of the configuration. -/
  | config
  /-- The host. -/
  | host
  /-- The port. -/
  | port
deriving DecidableEq

/-- What an option asks for. -/
inductive Switch where
  /-- A setting. -/
  | setting (s : Setting)
  /-- Help. -/
  | help
  /-- The version. -/
  | version

/-- The option with a long name. -/
def longSwitch? (name : List Char) : Option Switch :=
  if name = "config".toList then some (.setting .config)
  else if name = "host".toList then some (.setting .host)
  else if name = "port".toList then some (.setting .port)
  else if name = "help".toList then some .help
  else if name = "version".toList then some .version
  else none

/-- The option with a short name. -/
def shortSwitch? : Char → Option Switch
  | 'c' => some (.setting .config)
  | 'p' => some (.setting .port)
  | 'h' => some .help
  | 'V' => some .version
  | _ => none

/-! ## Reading -/

/-- What has been read so far. -/
structure Reading where
  /-- The path of the configuration, if it has been given. -/
  config : Option String := none
  /-- The host, if it has been given. -/
  host : Option String := none
  /-- The port, if it has been given. -/
  port : Option Nat := none
  /-- The last setting and its value, until it is looked at. -/
  pending : Option (Setting × Option String) := none
  /-- Whether two hyphens have ended the options. -/
  ended : Bool := false

namespace Reading

/-- Whether a setting has been given. -/
def has (r : Reading) : Setting → Bool
  | .config => r.config.isSome
  | .host => r.host.isSome
  | .port => r.port.isSome

/-- A port: an integer from 0 to 65535, which may have a sign. -/
def readPort? (value : String) : Option Nat :=
  match Numeral.readInt? value.toList with
  | some n => if 0 ≤ n ∧ n < UInt16.size then some n.toNat else none
  | none => none

/-- Gives a setting its value. -/
def assign (r : Reading) (s : Setting) (value : String) : Except CommandError Reading :=
  if r.has s then .error .argumentConflict
  else
    match s with
    | .config => if value = "" then .error .invalidValue else .ok { r with config := some value }
    | .host => .ok { r with host := some value }
    | .port =>
      match readPort? value with
      | some port => .ok { r with port := some port }
      | none => .error .valueValidation

/-- Looks at the setting that is pending. -/
def settle (r : Reading) : Except CommandError Reading :=
  match r.pending with
  | none => .ok r
  | some (_, none) => .error .invalidValue
  | some (s, some value) => { r with pending := none }.assign s value

/-- Takes an option and the value attached to it. -/
def takeSwitch (r : Reading) (attached : Option String) : Switch → Except CommandError Reading
  | .setting s => do
    let r ← r.settle
    match attached with
    | some value => r.assign s value
    | none => return { r with pending := some (s, none) }
  | .help => do
    let _ ← r.settle
    .error .displayHelp
  | .version => do
    let _ ← r.settle
    .error .displayVersion

/-- Takes an option with a long name, whose value may follow an equals sign. -/
def takeLong (r : Reading) (cs : List Char) : Except CommandError Reading :=
  let (name, attached) := match Text.cut? '=' cs with
    | some (name, value) => (name, some (String.ofList value))
    | none => (cs, none)
  match longSwitch? name, attached with
  | none, _ => .error .unknownArgument
  | some (.setting s), _ => r.takeSwitch attached (.setting s)
  | some _, some _ => .error .tooManyValues
  | some switch, none => r.takeSwitch none switch

/-- Takes an option with a short name, whose value may follow with or without an equals sign. -/
def takeShort (r : Reading) (name : Char) (cs : List Char) : Except CommandError Reading :=
  match shortSwitch? name with
  | none => .error .unknownArgument
  | some switch =>
    let attached := match cs with
      | [] => none
      | '=' :: value => some (String.ofList value)
      | value => some (String.ofList value)
    r.takeSwitch attached switch

/-- Takes an argument that is no option: the value of the last setting, if that lacks one. -/
def takeValue (r : Reading) (value : String) : Except CommandError Reading :=
  match r.pending with
  | some (s, none) => .ok { r with pending := some (s, some value) }
  | _ => .error .unknownArgument

/-- Takes the next argument. -/
def take (r : Reading) (argument : String) : Except CommandError Reading :=
  if r.ended then .error .unknownArgument
  else
    match argument.toList with
    | ['-', '-'] => .ok { r with ended := true }
    | '-' :: '-' :: cs => r.takeLong cs
    | '-' :: name :: cs => r.takeShort name cs
    | _ => r.takeValue argument

/-- The settings after all arguments. -/
def finish (r : Reading) : Except CommandError CommandLine := do
  let r ← r.settle
  let defaults : CommandLine := {}
  return { config := r.config.getD defaults.config, host := r.host, port := r.port }

end Reading

/-- Reads the arguments. -/
def read (arguments : List String) : Except CommandError CommandLine := do
  (← arguments.foldlM Reading.take {}).finish

end CommandLine

end WebRouting
