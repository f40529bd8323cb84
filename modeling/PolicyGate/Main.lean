import PolicyGate.Cli.Run
import Std.Time.DateTime.Timestamp

/-!
The command line program. Files, variables, the input and the time are read here; what is made of them
is decided elsewhere. Serving needs a listener for sockets, which is not part of this library.
-/
namespace PolicyGate.Cli

/-- The words of the operating system for a fault, with its number. -/
def systemText : IO.Error → String
  | .noFileOrDirectory _ code details => details ++ " (os error " ++ toString code ++ ")"
  | .permissionDenied _ code details => details ++ " (os error " ++ toString code ++ ")"
  | .inappropriateType _ code details => details ++ " (os error " ++ toString code ++ ")"
  | .illegalOperation code details => details ++ " (os error " ++ toString code ++ ")"
  | .invalidArgument _ code details => details ++ " (os error " ++ toString code ++ ")"
  | e => e.toString

def readText (path : String) : IO (Except String String) := do
  try
    return .ok (← IO.FS.readFile path)
  catch e => return .error (systemText e)

def currentTime : IO Timestamp := do
  let t ← Std.Time.Timestamp.now
  return ⟨t.val.second.val, t.val.nano.val.toNat⟩

def readInput : IO String := do (← IO.getStdin).readToEnd

def surroundings (config : Option String) : IO Surroundings := do
  let port ← IO.getEnv ServiceConfig.portVariable
  let secret ← IO.getEnv ServiceConfig.secretVariable
  let now ← currentTime
  let configText ← match config with
    | some path => do pure [(path, ← readText path)]
    | none => pure []
  let withFiles (files : List (String × Except String String)) : Surroundings :=
    { file := fun path => (files.lookup path).getD (.error "not read"),
      environment := fun name =>
        if name = ServiceConfig.portVariable then port
        else if name = ServiceConfig.secretVariable then secret
        else none,
      input := "", now }
  match loadConfig (withFiles configText) config with
  | .ok { seedPath := some seed, .. } => return withFiles (configText ++ [(seed, ← readText seed)])
  | _ => return withFiles configText

def run : Command → IO (Except CommandFault Json)
  | .compile config table permissions => do
    let s ← surroundings config
    let input ← if (loadConfig s config).isOk then readInput else pure ""
    return compile { s with input } config table permissions
  | .token config subject permissions minutes => do
    let s ← surroundings config
    return token s config subject permissions minutes
  | .start config => do
    let s ← surroundings config
    return do
      let server ← server s config
      let address := server.address.withPort server.port
      throw (.serve ("HTTP server failed: there is no listener for " ++ address))

def usageText : String :=
  "Usage: rowgate <COMMAND>

Commands:
  start    Start the HTTP gateway [--config <PATH>]
  compile  Compile a query read from the input --table <TABLE> [--permission <NAME>]... [--config <PATH>]
  token    Issue a token [--subject <NAME>] [--permission <NAME>]... [--ttl-minutes <N>] [--config <PATH>]"

def complain (text : String) : IO Unit := do
  (← IO.getStderr).putStrLn text

end PolicyGate.Cli

open PolicyGate Cli in
def main (args : List String) : IO UInt32 := do
  match Command.ofArguments args with
  | .error .version =>
    IO.println ("rowgate " ++ Gateway.version)
    return UsageFault.exitCode .version
  | .error .help =>
    IO.println usageText
    return UsageFault.exitCode .help
  | .error e =>
    complain usageText
    return e.exitCode
  | .ok command =>
    let outcome := Outcome.ofResult (← run command)
    IO.println outcome.output.text
    match outcome.complaint with
    | some text => complain text
    | none => pure ()
    return outcome.exitCode
