import CommandTimelines.Error
import CommandTimelines.Script.Action

/-!
# Runs

One run of a timeline, from its start to the end of its clean-up. A run drains its body one
action at a time, then cleans up, then has ended. A stop may claim the end of the run while
the body is drained: no further action of the body begins then, and the run ends cancelled. A
run that drains its whole body unclaimed claims its own end and finishes. Because the phase
tells who has claimed the end, it is claimed once at most. A phase is where the worker of a run
stands together with what the cells hold that the run shares with others
(`Server.Reachable.cellsOf_eq`).
-/

namespace CommandTimelines

open Script

/-- The number of a run, in the order of their starts. -/
abbrev RunId := Nat

/-- The state of a timeline, as it is shown. -/
inductive RunState where
  /-- Never started. -/
  | idle
  | running
  /-- The last run drained its body. -/
  | finished
  /-- The last run was stopped. -/
  | cancelled
deriving DecidableEq, Repr

/-- The name of a state. -/
def RunState.name : RunState → String
  | .idle => "idle"
  | .running => "running"
  | .finished => "finished"
  | .cancelled => "cancelled"

/-- Whether a new run may be started from a state. -/
def RunState.isRestartable : RunState → Bool
  | .running => false
  | _ => true

/-- How far a run has come. -/
inductive Phase where
  /-- The body is being drained; `stopping` once a stop has claimed the end of the run. -/
  | draining (stopping : Bool)
  /-- The body is over and the clean-up is being drained. -/
  | cleaning (cancelled : Bool)
  | ended (cancelled : Bool)
deriving DecidableEq, Repr

/-- What a run is doing at the moment. -/
inductive Activity where
  /-- Between two actions. -/
  | ready
  /-- Waiting, as a line says, until the clock shows `deadline`. -/
  | waiting (line milliseconds deadline : Nat)
  /-- An action has begun and its handler is still to be called. -/
  | calling (action : Action)
  /-- The handler of an action has been called, and the run has not taken up what came of it. -/
  | returned (action : Action) (error : Option StepError)
deriving DecidableEq, Repr

/-- A run of a timeline. -/
structure Run where
  /-- The timeline. -/
  key : String
  /-- The actions of the body. -/
  body : List Action
  /-- The actions of the clean-up. -/
  cleanUp : List Action
  /-- How many actions of the body have begun. -/
  begun : Nat := 0
  /-- How many actions of the clean-up have begun. -/
  cleaned : Nat := 0
  phase : Phase := .draining false
  activity : Activity := .ready
deriving DecidableEq, Repr

/-- The next action of a run's body. -/
def Run.nextOfBody? (run : Run) : Option Action := run.body[run.begun]?

/-- The next action of a run's clean-up. -/
def Run.nextOfCleanUp? (run : Run) : Option Action := run.cleanUp[run.cleaned]?

/-- How many actions of a run's body have not begun. -/
def Run.undone (run : Run) : Nat := run.body.length - run.begun

/-- How many actions of a run's clean-up have not begun. -/
def Run.uncleaned (run : Run) : Nat := run.cleanUp.length - run.cleaned

/-- The state of a run. -/
def Run.state (run : Run) : RunState :=
  match run.phase with
  | .draining _ => .running
  | .cleaning _ => .running
  | .ended false => .finished
  | .ended true => .cancelled

/-- Whether a run has not ended yet. -/
def Run.isRunning (run : Run) : Bool := run.state == .running

/-- Whether a run is cleaning up. -/
def Run.isCleaning (run : Run) : Bool :=
  match run.phase with
  | .cleaning _ => true
  | _ => false

/-- Whether a run is waiting for the clock. -/
def Run.isWaiting (run : Run) : Bool :=
  match run.activity with
  | .waiting _ _ _ => true
  | _ => false

/-- Whether a run can take its next step at a time. -/
def Run.canMove (run : Run) (now : Nat) : Bool :=
  match run.activity with
  | .ready =>
    match run.phase with
    | .ended _ => false
    | _ => true
  | .waiting _ _ deadline => run.phase == .draining true || deadline ≤ now
  | .calling _ => true
  | .returned _ _ => true

/-- An upper bound of the steps that a run still takes: three for each action, one for each
change of phase, and what is left of the action at hand. -/
def Run.load (run : Run) : Nat :=
  3 * run.undone + 3 * run.uncleaned
    + (match run.phase with
      | .draining false => 3
      | .draining true => 2
      | .cleaning _ => 1
      | .ended _ => 0)
    + (match run.activity with
      | .ready => 0
      | .waiting _ _ _ => 1
      | .calling _ => 2
      | .returned _ _ => 1)

/-- A timeline that was started at least once, or tried to. -/
structure Timeline where
  key : String
  /-- How many actions its runs have begun, clean-up apart. -/
  begun : Nat := 0
  /-- The current run, or the last one. -/
  current : Option RunId := none
deriving DecidableEq, Repr

end CommandTimelines
