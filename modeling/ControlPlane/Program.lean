import ControlPlane.Error
import ControlPlane.Http
import ControlPlane.Time.Instant

/-!
# Programs

Authentication and sending depend on files, commands, token endpoints, clocks and servers. A
`Program` is a computation that asks for these one question at a time; who answers, and how, is left
open, so one program runs against the real surroundings, against a script, and under every
quantifier of a theorem.
-/

namespace ControlPlane

inductive FileFault where
  | notFound
  | other (message : String)
  deriving DecidableEq, Repr

def FileFault.message : FileFault → String
  | .notFound => "No such file or directory (os error 2)"
  | .other message => message

inductive CommandFault where
  | notInstalled
  | other (message : String)
  deriving DecidableEq, Repr

/-- What a finished command leaves. -/
structure CommandOutput where
  succeeded : Bool := true
  stdout : Bytes := []
  stderr : Bytes := []
  deriving DecidableEq, Repr

/-- Why an exchange with a server came to nothing. -/
inductive WireFault where
  | failed (fault : HttpFault)
  /-- No answer within the time one attempt may take. -/
  | timedOut (url : String)
  deriving DecidableEq, Repr

/-- The severity of a log line. -/
inductive Level where
  | warn
  | info
  | debug
  deriving DecidableEq, Repr

/-- What a program may ask of its surroundings. -/
inductive Query where
  /-- The user's home directory, if it is known. -/
  | homeDirectory
  | readFile (path : String)
  | runCommand (program : String) (arguments : List String)
  /-- One request over the wire, and its answer. -/
  | exchange (request : Request)
  /-- One attempt of a request by the transport under the retries. -/
  | attempt (request : Request)
  /-- A permit of the client's rate limiter, waited for. -/
  | permit
  /-- The time of day. -/
  | wallClock
  /-- A clock that is never set. -/
  | steadyClock
  | sleep (span : Span)
  | log (level : Level) (line : String)

abbrev Query.Answer : Query → Type
  | .homeDirectory => Option String
  | .readFile _ => Except FileFault Bytes
  | .runCommand _ _ => Except CommandFault CommandOutput
  | .exchange _ => Except WireFault Response
  | .attempt _ => Except Error Response
  | .permit => Unit
  | .wallClock => Instant
  | .steadyClock => Span
  | .sleep _ => Unit
  | .log _ _ => Unit

/-- An answer to every question, as of one moment. -/
abbrev Answers := (query : Query) → query.Answer

/-- A computation that asks questions. -/
inductive Program (α : Type) where
  | done (value : α)
  | ask (query : Query) (resume : query.Answer → Program α)

namespace Program

variable {α β γ : Type}

/-- Goes on with the result of a program. -/
def bind : Program α → (α → Program β) → Program β
  | .done value, next => next value
  | .ask query resume, next => .ask query fun answer => bind (resume answer) next

instance : Monad Program where
  pure := .done
  bind := bind

@[simp]
theorem pure_eq_done (value : α) : (pure value : Program α) = .done value := rfl

@[simp]
theorem done_bind (value : α) (next : α → Program β) :
    Program.done value >>= next = next value := rfl

@[simp]
theorem ask_bind (query : Query) (resume : query.Answer → Program α) (next : α → Program β) :
    Program.ask query resume >>= next = .ask query fun answer => resume answer >>= next := rfl

theorem bind_done (program : Program α) : program >>= Program.done = program := by
  induction program with
  | done value => rfl
  | ask query resume ih =>
    rw [ask_bind]
    congr
    funext answer
    exact ih answer

theorem bind_assoc (program : Program α) (next : α → Program β) (last : β → Program γ) :
    program >>= next >>= last = program >>= fun value => next value >>= last := by
  induction program with
  | done value => rfl
  | ask query resume ih =>
    simp only [ask_bind]
    congr
    funext answer
    exact ih answer

instance : LawfulMonad Program :=
  LawfulMonad.mk' Program (fun program => bind_done program) (fun _ _ => rfl) bind_assoc

def query (query : Query) : Program query.Answer :=
  .ask query .done

def homeDirectory : Program (Option String) :=
  query .homeDirectory

def readFile (path : String) : Program (Except FileFault Bytes) :=
  query (.readFile path)

def runCommand (program : String) (arguments : List String) :
    Program (Except CommandFault CommandOutput) :=
  query (.runCommand program arguments)

def exchange (request : Request) : Program (Except WireFault Response) :=
  query (.exchange request)

def attempt (request : Request) : Program (Except Error Response) :=
  query (.attempt request)

def permit : Program Unit :=
  query .permit

def wallClock : Program Instant :=
  query .wallClock

def steadyClock : Program Span :=
  query .steadyClock

def sleep (span : Span) : Program Unit :=
  query (.sleep span)

def log (level : Level) (line : String) : Program Unit :=
  query (.log level line)

def warn (line : String) : Program Unit :=
  log .warn line

def info (line : String) : Program Unit :=
  log .info line

def debug (line : String) : Program Unit :=
  log .debug line

/-- Runs a program with someone who answers. -/
def run {m : Type → Type} [Monad m] (answer : (query : Query) → m query.Answer) :
    Program α → m α
  | .done value => pure value
  | .ask query resume => do
    let reply ← answer query
    run answer (resume reply)

/-- What a program comes to if the same answers are given throughout. -/
def answerAll (answers : Answers) : Program α → α
  | .done value => value
  | .ask query resume => answerAll answers (resume (answers query))

/-- Makes every attempt of a program by a program of its own. -/
def attemptBy (send : Request → Program (Except Error Response)) : Program α → Program α
  | .done value => .done value
  | .ask query resume =>
    match query, resume with
    | .attempt request, resume => bind (send request) fun reply => attemptBy send (resume reply)
    | query, resume => .ask query fun answer => attemptBy send (resume answer)

/-- The text of a file, or why there is none. -/
def readText (path : String) : Program (Except FileFault String) := do
  match ← readFile path with
  | .error fault => return .error fault
  | .ok octets =>
    match octets.decode? with
    | some text => return .ok text
    | none => return .error (.other "stream did not contain valid UTF-8")

end Program

/-- A program that may fail. -/
abbrev Attempt (α : Type) := ExceptT Failure Program α

namespace Attempt

variable {α : Type}

def fail (error : Error) : Attempt α :=
  throw (.error error)

/-- A result, or the error of having none. -/
def ofOption (error : Error) : Option α → Attempt α
  | some value => pure value
  | none => fail error

/-- A result or an error. -/
def ofExcept : Except Error α → Attempt α
  | .ok value => pure value
  | .error error => fail error

end Attempt

end ControlPlane
