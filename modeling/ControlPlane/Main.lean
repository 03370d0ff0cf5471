import ControlPlane.CommandLine
import ControlPlane.Surroundings.Wording
import Std.Time.DateTime.Timestamp

/-!
# The program

Answers the questions of a command line from the files, the environment and the clocks of this
machine. No command is run and no server is reached from here: commands count as not installed, and
requests as unsent.
-/

namespace ControlPlane.Main

/-- The fault of a file, as the library knows it. -/
def fileFault : IO.Error → FileFault
  | .noFileOrDirectory _ _ _ => .notFound
  | .inappropriateType _ code details => .other (details ++ " (os error " ++ toString code ++ ")")
  | error => .other (toString error)

def levelText : Level → String
  | .warn => "WARN"
  | .info => "INFO"
  | .debug => "DEBUG"

/-- Answers a question; debug lines are shown only if asked for. -/
def answer (showsDebug : Bool) : (query : Query) → IO query.Answer
  | .homeDirectory => IO.getEnv "HOME"
  | .readFile path => do
    try
      return .ok (← IO.FS.readBinFile path).toList
    catch error =>
      return .error (fileFault error)
  | .runCommand _ _ => return .error .notInstalled
  | .exchange request => return .error (.failed (.unsent request.url.text))
  | .attempt request => return .error (.http (.unsent request.url.text))
  | .permit => return ()
  | .wallClock => do
    let now ← Std.Time.Timestamp.now
    return ⟨now.toNanosecondsSinceUnixEpoch.val⟩
  | .steadyClock => do return ⟨← IO.monoNanosNow⟩
  | .sleep span => IO.sleep (UInt32.ofNat span.millis)
  | .log level line =>
    if level = .debug && !showsDebug then return ()
    else IO.eprintln (levelText level ++ " " ++ line)

/-- The environment variables that count, with their values. -/
def environment : IO (List (String × String)) := do
  let pairs ← CommandLine.environmentNames.mapM fun name => do
    return (← IO.getEnv name).map (name, ·)
  return pairs.filterMap id

/-- Does what a command line asks for, and gives the exit code. -/
def perform (line : CommandLine) : IO UInt32 := do
  match ← line.run.run (answer line.verbose) with
  | .ok text =>
    IO.print text
    return 0
  | .error (.error error) =>
    IO.eprintln ("Error: " ++ error.message)
    return 1
  | .error .outOfCalendar =>
    IO.eprintln "a token ends beyond the calendar"
    return 101

end ControlPlane.Main

open ControlPlane in
/-- Reads the command line and does what it asks for. -/
def main (arguments : List String) : IO UInt32 := do
  let pairs ← Main.environment
  match CommandLine.parse (fun name => pairs.lookup name) arguments with
  | .ok line => Main.perform line
  | .error usage =>
    if usage = .help || usage = .version then
      IO.println usage.message
      return 0
    else
      IO.eprintln usage.message
      return 2
