import ControlPlane.Proofs.Program.Effects

/-!
# Courses of events

A world answers the questions of a program in turn and takes its time for each. One clock counts
that time and the sleep between: it is the steady clock of the program, and the time of day goes by
it as well. Reading a clock and writing to the log take no time.
-/

namespace ControlPlane

variable {α β : Type}

/-- What a question is answered when it is its turn, and how long that takes. -/
structure Turn where
  answers : Answers
  length : Span

/-- Surroundings with one clock, which answer by a script. -/
structure World where
  /-- The time of day when the clock stands at zero. -/
  epoch : Instant
  script : Nat → Turn

/-- An attempt, and where the clock stood when it started. -/
structure Departure where
  start : Span
  request : Request

/-- How far a world has come. -/
structure Course where
  clock : Span
  /-- The number of turns that are over. -/
  turns : Nat := 0
  departures : List Departure := []

namespace Course

def waited (course : Course) (span : Span) : Course :=
  { course with clock := ⟨course.clock.nanos + span.nanos⟩ }

/-- After a turn of this length. -/
def turned (course : Course) (length : Span) : Course :=
  { course.waited length with turns := course.turns + 1 }

def departed (course : Course) (request : Request) : Course :=
  { course with departures := course.departures ++ [⟨course.clock, request⟩] }

end Course

namespace World

variable (world : World) (course : Course)

/-- The time of day at a reading of the clock. -/
def timeAt (reading : Span) : Instant :=
  world.epoch.after reading

def turn (query : Query) : StateM Course query.Answer := fun course =>
  ((world.script course.turns).answers query, course.turned (world.script course.turns).length)

def answer : (query : Query) → StateM Course query.Answer
  | .wallClock => fun course => (world.timeAt course.clock, course)
  | .steadyClock => fun course => (course.clock, course)
  | .sleep span => fun course => ((), course.waited span)
  | .log _ _ => fun course => ((), course)
  | .attempt request => fun course => world.turn (.attempt request) (course.departed request)
  | query => world.turn query

/-- A program in a world: its result, and the course at its end. -/
def play (program : Program α) (course : Course) : α × Course :=
  (program.run world.answer).run course

@[simp]
theorem play_done (value : α) : world.play (.done value) course = (value, course) := rfl

theorem play_ask (query : Query) (resume : query.Answer → Program α) :
    world.play (.ask query resume) course =
      world.play (resume (world.answer query course).1) (world.answer query course).2 := rfl

@[simp]
theorem play_bind (program : Program α) (next : α → Program β) :
    world.play (program >>= next) course =
      world.play (next (world.play program course).1) (world.play program course).2 := by
  induction program generalizing course with
  | done value => rfl
  | ask query resume ih => exact ih _ _

@[simp]
theorem play_wallClock :
    world.play Program.wallClock course = (world.timeAt course.clock, course) := rfl

@[simp]
theorem play_debug (line : String) : world.play (Program.debug line) course = ((), course) := rfl

/-! ### Departures along a course -/

theorem departures_answer (query : Query) :
    ∃ departures, (world.answer query course).2.departures = course.departures ++ departures ∧
      departures.map Departure.request = query.attempted?.toList := by
  cases query with
  | attempt request => exact ⟨[⟨course.clock, request⟩], rfl, rfl⟩
  | _ => exact ⟨[], (List.append_nil _).symm, rfl⟩

/-- A course is that of a run, whose attempts are what departs. -/
theorem runs_play (program : Program α) :
    ∃ trace departures, program.Runs trace (world.play program course).1 ∧
      (world.play program course).2.departures = course.departures ++ departures ∧
      departures.map Departure.request = attemptsOf trace := by
  induction program generalizing course with
  | done value => exact ⟨[], [], .done value, (List.append_nil _).symm, rfl⟩
  | ask query resume ih =>
      obtain ⟨first, hfirst, hattempted⟩ := world.departures_answer course query
      obtain ⟨trace, rest, hruns, hrest, hattempts⟩ :=
        ih (world.answer query course).1 (world.answer query course).2
      refine ⟨_, first ++ rest, .ask _ hruns, ?_, ?_⟩
      · rw [play_ask, hrest, hfirst, List.append_assoc]
      · rw [List.map_append, hattempted, hattempts, attemptsOf, attemptsOf, List.filterMap_cons]
        cases query.attempted? <;> rfl

theorem departures_play_of_attemptFree {program : Program α} (h : program.AttemptFree) :
    (world.play program course).2.departures = course.departures := by
  obtain ⟨trace, departures, hruns, hdepartures, hattempts⟩ := world.runs_play course program
  rw [h.attemptsOf_eq_nil hruns, List.map_eq_nil_iff] at hattempts
  rw [hdepartures, hattempts, List.append_nil]

end World

end ControlPlane
