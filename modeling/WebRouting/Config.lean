import WebRouting.Toml.Reader
import WebRouting.Unicode.Property

/-! # Configuration

Settings from a TOML document, in three sections. Every setting has a default of its own, for a section
that does not give it, and so has every section that is not given. What is not a setting is ignored. A
section may also be an array of its settings in order. -/

namespace WebRouting

/-! ## Sections -/

/-- The host of a section that gives none. -/
def defaultHost : String := "127.0.0.1"

/-- The port of a section that gives none. -/
def defaultPort : Nat := 3000

/-- The level of a section that gives none. -/
def defaultLevel : String := "info"

/-- What is checked of routes by a section that does not say so. -/
def defaultChecking : Bool := true

/-- Where to listen. -/
structure ServerConfig where
  /-- The host. -/
  host : String := defaultHost
  /-- The port. -/
  port : Nat := defaultPort
deriving DecidableEq

/-- How routes are checked. -/
structure RoutingConfig where
  /-- Whether the number of a handler's parameters is checked. -/
  checking : Bool := true
deriving DecidableEq

/-- How events are logged. -/
structure LoggingConfig where
  /-- The least level. -/
  level : String := defaultLevel
  /-- Whether events are logged as JSON. -/
  json : Bool := false
deriving DecidableEq

/-- The whole configuration. -/
structure Config where
  /-- The section on the server. -/
  server : ServerConfig := {}
  /-- The section on routes. -/
  routing : RoutingConfig := {}
  /-- The section on logging. -/
  logging : LoggingConfig := {}
deriving DecidableEq

/-- Why a configuration could not be read. -/
inductive ConfigError where
  /-- The bytes are not UTF-8. -/
  | notText
  /-- The text is no document, or a setting has a wrong type. -/
  | invalid
deriving DecidableEq

/-- The address to listen on. -/
def ServerConfig.address (c : ServerConfig) : String :=
  c.host ++ ":" ++ String.ofList (Numeral.writeNat c.port)

namespace Config

/-! ## Settings -/

/-- The settings given in a section, each found by its place and its name. -/
abbrev Section : Type := Nat → String → Option Toml

/-- The settings in a value: by name in a table, by place in an array, and none in a date. -/
def sectionOf? : Toml → Option Section
  | .table entries => some fun _ name => entries.lookup name
  | .array items => some fun place _ => items[place]?
  | .dateTime => some fun _ _ => none
  | _ => none

/-- A setting that is a string. -/
def asString? : Toml → Option String
  | .string s => some s
  | _ => none

/-- A setting that is a truth value. -/
def asBool? : Toml → Option Bool
  | .bool b => some b
  | _ => none

/-- A setting that is a port. -/
def asPort? : Toml → Option Nat
  | .int n => if 0 ≤ n ∧ n < UInt16.size then some n.toNat else none
  | _ => none

/-- A setting, or its default where it is not given. -/
def setting? {α : Type} (read? : Toml → Option α) (fallback : α) (given : Option Toml) : Option α :=
  match given with
  | none => some fallback
  | some v => read? v

/-- A section, or its default where it is not given. -/
def readSection? {α : Type} (read? : Section → Option α) (fallback : α) (given : Option Toml) :
    Option α :=
  match given with
  | none => some fallback
  | some v => (sectionOf? v).bind read?

/-- The section on the server. -/
def readServer? (s : Section) : Option ServerConfig := do
  let host ← setting? asString? defaultHost (s 0 "host")
  let port ← setting? asPort? defaultPort (s 1 "port")
  return { host, port }

/-- The section on routes. -/
def readRouting? (s : Section) : Option RoutingConfig := do
  let checking ← setting? asBool? defaultChecking (s 0 "checking_param")
  return { checking }

/-- The section on logging. -/
def readLogging? (s : Section) : Option LoggingConfig := do
  let level ← setting? asString? defaultLevel (s 0 "level")
  let json ← setting? asBool? false (s 1 "json")
  return { level, json }

/-- The configuration in a document. -/
def ofToml? (document : Toml) : Option Config := do
  let sections ← sectionOf? document
  let server ← readSection? readServer? {} (sections 0 "server")
  let routing ← readSection? readRouting? {} (sections 1 "routing")
  let logging ← readSection? readLogging? {} (sections 2 "logging")
  return { server, routing, logging }

/-! ## Files -/

/-- The configuration in a text. A blank text gives the defaults. -/
def ofText (text : String) : Except ConfigError Config :=
  if text.toList.all Unicode.isBlank then .ok {}
  else
    match (Toml.read? text).bind ofToml? with
    | some config => .ok config
    | none => .error .invalid

/-- The configuration in the content of a file. Without a file it is the default. -/
def load (content : Option ByteArray) : Except ConfigError Config :=
  match content with
  | none => .ok {}
  | some bytes =>
    match String.fromUTF8? bytes with
    | some text => ofText text
    | none => .error .notText

end Config

end WebRouting
