import CommandTimelines.Error

/-!
# Events

What the server tells the world about the runs of its timelines. A subscriber that does not
keep up loses the oldest events; `receive` says what it gets.
-/

namespace CommandTimelines

/-- Something that happened to a run of a timeline. -/
inductive Event where
  /-- A run was compiled and is about to begin. -/
  | started (name : String) (actions : Nat)
  /-- A step of the body failed; the run goes on. -/
  | failed (name : String) (line : Nat) (error : StepError)
  /-- A run ended, its clean-up included. -/
  | finished (name : String) (cancelled : Bool)
deriving DecidableEq, Repr

/-- The timeline an event is about. -/
def Event.name : Event → String
  | .started name _ => name
  | .failed name _ _ => name
  | .finished name _ => name

/-- What a subscriber gets of the events since it last looked. -/
structure Received where
  /-- How many events were lost. -/
  lost : Nat
  events : List Event
deriving DecidableEq, Repr

/-- How many events are kept: the capacity asked for, but at least one, rounded up to a power
of two. -/
def keptEvents (capacity : Nat) : Nat := (max capacity 1).nextPowerOfTwo

/-- The last events, as many as are kept, and the number of those before them. -/
def receive (capacity : Nat) (events : List Event) : Received :=
  let lost := events.length - keptEvents capacity
  ⟨lost, events.drop lost⟩

end CommandTimelines
