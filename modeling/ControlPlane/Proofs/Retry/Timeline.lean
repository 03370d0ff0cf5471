import ControlPlane.Program

/-!
# Time in a call

A `Timeline` is a clock with a record of the attempts, the sleep and the log lines of a call. Time
passes only in attempts, each of which takes as long as a script says, and in sleep, which takes
exactly as long as it was meant to.
-/

namespace ControlPlane

variable {α β : Type}

/-- What the transport under the retries does with one attempt. -/
structure Sending where
  answer : Except Error Response
  length : Span

/-- A clock, and what was done by it. -/
structure Timeline where
  clock : Span
  /-- When each attempt started. -/
  starts : List Span := []
  slept : Span := Span.zero
  lines : List String := []

namespace Timeline

/-- After the next attempt of a script. -/
def attempted (timeline : Timeline) (script : Nat → Sending) : Timeline :=
  { timeline with
    clock := ⟨timeline.clock.nanos + (script timeline.starts.length).length.nanos⟩
    starts := timeline.starts ++ [timeline.clock] }

def waited (timeline : Timeline) (span : Span) : Timeline :=
  { timeline with
    clock := ⟨timeline.clock.nanos + span.nanos⟩
    slept := ⟨timeline.slept.nanos + span.nanos⟩ }

def logged (timeline : Timeline) (line : String) : Timeline :=
  { timeline with lines := timeline.lines ++ [line] }

/-- Surroundings that send attempts by a script, and answer what does not concern time as `others`. -/
def answer (script : Nat → Sending) (others : Answers) :
    (query : Query) → StateM Timeline query.Answer
  | .attempt _ => fun timeline =>
    ((script timeline.starts.length).answer, timeline.attempted script)
  | .steadyClock => fun timeline => (timeline.clock, timeline)
  | .sleep span => fun timeline => ((), timeline.waited span)
  | .log _ line => fun timeline => ((), timeline.logged line)
  | query => fun timeline => (others query, timeline)

/-- A program in such surroundings: its result, and the timeline at its end. -/
def play (script : Nat → Sending) (others : Answers) (program : Program α) (timeline : Timeline) :
    α × Timeline :=
  (program.run (answer script others)).run timeline

variable (script : Nat → Sending) (others : Answers) (timeline : Timeline)

@[simp]
theorem play_done (value : α) : play script others (.done value) timeline = (value, timeline) := rfl

@[simp]
theorem play_bind (program : Program α) (next : α → Program β) :
    play script others (program >>= next) timeline =
      play script others (next (play script others program timeline).1)
        (play script others program timeline).2 := by
  induction program generalizing timeline with
  | done value => rfl
  | ask query resume ih => exact ih _ _

@[simp]
theorem play_attempt (request : Request) :
    play script others (Program.attempt request) timeline =
      ((script timeline.starts.length).answer, timeline.attempted script) := rfl

@[simp]
theorem play_steadyClock :
    play script others Program.steadyClock timeline = (timeline.clock, timeline) := rfl

@[simp]
theorem play_sleep (span : Span) :
    play script others (Program.sleep span) timeline = ((), timeline.waited span) := rfl

@[simp]
theorem play_warn (line : String) :
    play script others (Program.warn line) timeline = ((), timeline.logged line) := rfl

@[simp]
theorem play_info (line : String) :
    play script others (Program.info line) timeline = ((), timeline.logged line) := rfl

end Timeline

end ControlPlane
