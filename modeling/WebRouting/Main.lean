import WebRouting.CommandLine
import WebRouting.Demo

/-! # Program

The demonstration as a program. It reads its arguments and its configuration, lists its routes, and
answers each line `METHOD TARGET` of its input with a line `STATUS BODY`. -/

namespace WebRouting

/-- The usage of the program. -/
def usage : String := "Usage: web-routing [--config <CONFIG>] [--host <HOST>] [--port <PORT>]"

/-- The version of the program. -/
def version : String := "web-routing 0.1.0"

/-- The line for a route. -/
def Route.summary {η : Type} (r : Route η) : String :=
  r.rule ++ " " ++ ",".intercalate r.methods.toList ++ " " ++ r.endpoint

/-- The answer to a line of input. -/
def answerLine (a : App) (line : List Char) : String :=
  match Text.cut? ' ' line with
  | some (method, target) =>
    match Request.make? (String.ofList method) (String.ofList target) [] .empty with
    | some request =>
      let response := a.respond request
      Inspect.count response.status ++ " " ++ response.body
    | none => "invalid request"
  | none => "invalid request"

/-- The content of a file, if there is one. It is an error if it cannot be read. -/
def readFile? (path : String) : IO (Option ByteArray) := do
  if ← ((← IO.currentDir) / path).pathExists then return some (← IO.FS.readBinFile path)
  else return none

/-- Answers lines until the input ends. -/
partial def serve (a : App) : IO Unit := do
  let line ← (← IO.getStdin).getLine
  if line ≠ "" then
    IO.println (answerLine a (line.toList.filter fun c => c ≠ '\n' && c ≠ '\r'))
    serve a

/-- Runs the application that the arguments ask for. -/
def run (command : CommandLine) : IO UInt32 := do
  let content ← try readFile? command.config
    catch _ =>
      IO.eprintln "unreadable configuration"
      return 1
  match Config.load content with
  | .error _ =>
    IO.eprintln "invalid configuration"
    return 1
  | .ok config =>
    let server : ServerConfig :=
      { host := command.host.getD config.server.host, port := command.port.getD config.server.port }
    match Demo.app config.routing with
    | .error e =>
      IO.eprintln e.message
      return 1
    | .ok a =>
      IO.println server.address
      for route in a.routes do
        IO.println route.summary
      serve a
      return 0

/-- Runs the program with its arguments. -/
def start (arguments : List String) : IO UInt32 := do
  match CommandLine.read arguments with
  | .ok command => run command
  | .error .displayHelp =>
    IO.println usage
    return 0
  | .error .displayVersion =>
    IO.println version
    return 0
  | .error _ =>
    IO.eprintln usage
    return 2

end WebRouting

/-- The program. -/
def main (arguments : List String) : IO UInt32 := WebRouting.start arguments
