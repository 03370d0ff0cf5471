import ControlPlane.Surroundings.Files
import ControlPlane.Surroundings.Wording

/-!
# Surroundings in memory

Surroundings that answer every question without leaving the program: files in memory, commands and
attempts that come out as a script says, servers that are not there, a time of day that stands
still, and a steady clock that moves while somebody sleeps. They keep a record of commands, attempts
and log lines.
-/

namespace ControlPlane

/-- What comes out, call by call; the last entry goes on for ever. -/
structure Script (α : Type) where
  entries : List α := []
  /-- How many calls there were. -/
  calls : Nat := 0
  deriving DecidableEq, Repr

namespace Script

variable {α : Type}

/-- What comes out next; nothing from a script without entries. -/
def next? (script : Script α) : Option α :=
  script.entries[min script.calls (script.entries.length - 1)]?

/-- The script after a call. -/
def advance (script : Script α) : Script α :=
  { script with calls := script.calls + 1 }

end Script

/-- A command that was run. -/
structure CommandCall where
  program : String
  arguments : List String
  deriving DecidableEq, Repr

/-- An attempt that a script says: how long it takes, and what comes out. -/
structure AttemptOutcome where
  delay : Span := Span.zero
  outcome : Except Error Response

structure Surroundings where
  home : Option String := none
  files : Surroundings.Files := {}
  /-- How commands come out, by program; a program without entries is not installed. -/
  commands : List (String × Script (Except CommandFault CommandOutput)) := []
  /-- How attempts come out. -/
  attempts : Script AttemptOutcome := {}
  /-- The time of day. -/
  now : Instant := ⟨0⟩
  /-- The steady clock. -/
  clock : Span := Span.zero
  /-- The commands that were run, in order. -/
  commandCalls : List CommandCall := []
  /-- The requests that were attempted, in order. -/
  sent : List Request := []
  /-- The log, in order. -/
  log : List (Level × String) := []

namespace Surroundings

/-- The steady clock after a sleep: sleepers wake at whole milliseconds. -/
def wake (clock span : Span) : Span :=
  Span.ofMillis ((clock.nanos + span.nanos + 999999) / 1000000)

/-- How a program comes out, and the scripts after the call. -/
def runScript (program : String) :
    List (String × Script (Except CommandFault CommandOutput)) →
      Except CommandFault CommandOutput × List (String × Script (Except CommandFault CommandOutput))
  | [] => (.error .notInstalled, [])
  | (name, script) :: rest =>
    if name = program then
      (script.next?.getD (.error .notInstalled), (name, script.advance) :: rest)
    else
      let (outcome, others) := runScript program rest
      (outcome, (name, script) :: others)

def runCommand (surroundings : Surroundings) (program : String) (arguments : List String) :
    Except CommandFault CommandOutput × Surroundings :=
  let (outcome, commands) := runScript program surroundings.commands
  (outcome,
    { surroundings with
      commands := commands
      commandCalls := surroundings.commandCalls ++ [⟨program, arguments⟩] })

def attempt (surroundings : Surroundings) (request : Request) :
    Except Error Response × Surroundings :=
  let entry := surroundings.attempts.next?.getD
    { outcome := .error (.other "no attempt is expected") }
  (entry.outcome,
    { surroundings with
      attempts := surroundings.attempts.advance
      clock := if entry.delay.nanos = 0 then surroundings.clock
        else wake surroundings.clock entry.delay
      sent := surroundings.sent ++ [request] })

def answer : (query : Query) → StateM Surroundings query.Answer
  | .homeDirectory => do return (← get).home
  | .readFile path => do return (← get).files.read path
  | .runCommand program arguments => fun surroundings => surroundings.runCommand program arguments
  | .exchange request => return .error (.failed (.unsent request.url.text))
  | .attempt request => fun surroundings => surroundings.attempt request
  | .permit => return ()
  | .wallClock => do return (← get).now
  | .steadyClock => do return (← get).clock
  | .sleep span => modify fun surroundings =>
    { surroundings with clock := wake surroundings.clock span }
  | .log level line => modify fun surroundings =>
    { surroundings with log := surroundings.log ++ [(level, line)] }

/-- Runs a program: its result, and the surroundings it leaves. -/
def run {α : Type} (surroundings : Surroundings) (program : Program α) : α × Surroundings :=
  (program.run answer).run surroundings

end Surroundings

end ControlPlane
