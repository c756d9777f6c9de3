import GuildRelay.Session.Basic
import GuildRelay.Store.Host
/-!
# The command line

Reads events from standard input and writes a line for every event that has destinations. The cache
is kept in memory for as long as the program runs.
-/

namespace GuildRelay.CommandLine

/-- How the program is called. -/
def usage : String :=
  "Usage: switchboard [--config <CONFIG>] [--source <SOURCE>]"

/-- What is found under the name of a file. -/
def readFile (name : String) : IO Settings.File := do
  try
    return .text (← IO.FS.readFile name)
  catch
    | .noFileOrDirectory .. => return .missing
    | _ => return .unreadable

/-- The variables that settings may come from, as far as they are set. -/
def setVariables : IO (List (String × String)) :=
  Settings.variableNames.filterMapM fun name => do
    return (← IO.getEnv name).map fun value => (name, value)

/-- What is reported when a session cannot be started. -/
def startMessage : StartError → String
  | .settings .unreadable => "failed to read config"
  | .settings .malformed => "failed to parse config"
  | .settings (.badRate field rate) => Settings.badRateMessage field rate
  | .badAddress => "failed to create redis pool"
  | .unreadableRoutes | .badRoutes _ => "failed to load routing"

/-- Handles the lines of the input until it ends. -/
partial def serve (s : Session) (input output : IO.FS.Stream) (botId : String) (host : Host) :
    IO Unit := do
  let line ← input.getLine
  if line.isEmpty then return
  let now ← IO.monoMsNow
  let program := (s.step botId line).mapKeys (Key.text s.settings.ns)
  let ((botId, routed), host) := program.run Host.backend { host with now }
  if let some r := routed then
    output.putStrLn r.json
    output.flush
  serve s input output botId host

/-- Starts a session with the files and variables of this machine. -/
def start (a : Arguments) : IO (Except StartError Session) := do
  let values ← setVariables
  let lookup := fun name => List.lookup name values
  match Settings.load (← readFile a.settingsPath) lookup with
  | .error e => return .error (.settings e)
  | .ok settings =>
    let routingFile ← readFile settings.routingPath
    return Session.ofSettings a.source settings routingFile

/-- Runs a session and tells how the program exits. -/
def run (a : Arguments) : IO UInt32 := do
  match ← start a with
  | .error e =>
    IO.eprintln ("Error: " ++ startMessage e)
    return 1
  | .ok s =>
    serve s (← IO.getStdin) (← IO.getStdout) "" {}
    return 0

end GuildRelay.CommandLine

open GuildRelay in
/-- The program. -/
def main (arguments : List String) : IO UInt32 := do
  match CommandRequest.ofArguments arguments with
  | .run a => CommandLine.run a
  | .version =>
    IO.println CommandRequest.versionText
    return 0
  | .help =>
    IO.println CommandLine.usage
    return 0
  | .rejected =>
    IO.eprintln CommandLine.usage
    return 2
