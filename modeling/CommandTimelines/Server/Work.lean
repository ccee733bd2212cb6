import CommandTimelines.Server.Call

/-!
# The work of a run

A run proceeds in small steps, each of which happens at one instant and without anything else
in between: an action begins, a wait is over, a handler is called, the run takes up what came
of the call, the clean-up begins, the run ends. Runs take turns: a run whose handler is to be
called, or has been called, lets all others go first, among them a run that the handler has
stopped.
-/

namespace CommandTimelines.Server

open Script

variable (s : Server)

/-- The server with a run doing something else. -/
def setActivity (id : RunId) (activity : Activity) : Server :=
  s.updateRun id fun r => { r with activity }

/-- How many milliseconds a wait lasts at most: those of thirty years of 365 days. -/
def longestWait : Nat := 30 * 365 * 24 * 60 * 60 * 1000

/-- The server after an action at work is over. -/
def conclude (work : Work) (error : Option StepError) : Server :=
  (s.record (.over work error)).setActivity work.run .ready

/-- The server with a run busy with an action that has begun. A wait of no time does not suspend
the run, and a handler is called when all other runs have had their turns. -/
def engage (work : Work) : Server :=
  match work.action with
  | .delay _ 0 => s.conclude work none
  | .delay line milliseconds =>
    s.setActivity work.run
      (.waiting line milliseconds (s.clock + min milliseconds longestWait))
  | action => (s.setActivity work.run (.calling action)).yieldTurn work.run

/-- The server after the next action of a run's body has begun. -/
def beginBody (id : RunId) (run : Run) (action : Action) : Server :=
  let s := s.updateTimeline run.key fun t => { t with begun := t.begun + 1 }
  let s := s.log (.beginning run.key action)
  let s := s.record (.began ⟨id, false, action⟩)
  (s.updateRun id fun r => { r with begun := r.begun + 1 }).engage ⟨id, false, action⟩

/-- The server after the next action of a run's clean-up has begun. -/
def beginCleanUp (id : RunId) (action : Action) : Server :=
  let s := s.record (.began ⟨id, true, action⟩)
  (s.updateRun id fun r => { r with cleaned := r.cleaned + 1 }).engage ⟨id, true, action⟩

/-- The server after a run has turned to its clean-up. -/
def turnToCleanUp (id : RunId) (cancelled : Bool) : Server :=
  s.updateRun id fun r => { r with phase := .cleaning cancelled }

/-- The server after a run that has drained its body has claimed its own end. -/
def claimOwnEnd (id : RunId) (run : Run) : Server :=
  ((s.record (.claimed id none)).log (.finished run.key)).turnToCleanUp id false

/-- The server after a stopped run has left its body. -/
def leaveBody (id : RunId) (run : Run) : Server :=
  (if run.undone = 0 then s else s.log (.cutShort run.key run.undone)).turnToCleanUp id true

/-- The server after a run has ended. -/
def finish (id : RunId) (run : Run) (cancelled : Bool) : Server :=
  (s.updateRun id fun r => { r with phase := .ended cancelled }).publish id
    (.finished run.key cancelled)

/-- The server after a handler has been called for an action at hand. -/
def handle (id : RunId) (run : Run) (action : Action) : Server :=
  let work : Work := ⟨id, run.isCleaning, action⟩
  ((s.setActivity id (.returned action (s.failure? work))).carryOut work).yieldTurn id

/-- The server after a run has taken up what came of a call. A failed step of the body is
published, one of the clean-up is only noted. -/
def takeUp (id : RunId) (run : Run) (action : Action) (error : Option StepError) : Server :=
  let work : Work := ⟨id, run.isCleaning, action⟩
  match error, run.phase with
  | none, _ => s.conclude work none
  | some e, .draining _ =>
    ((s.log (.stepFailed run.key action.line e)).conclude work error).publish id
      (.failed run.key action.line e)
  | some e, _ => (s.log (.cleanUpFailed run.key action.line e)).conclude work error

/-- The server after a run that is between two actions has gone on. -/
def proceed (id : RunId) (run : Run) : Server :=
  match run.phase with
  | .draining false =>
    match run.nextOfBody? with
    | none => s.claimOwnEnd id run
    | some action => s.beginBody id run action
  | .draining true => s.leaveBody id run
  | .cleaning cancelled =>
    match run.nextOfCleanUp? with
    | none => s.finish id run cancelled
    | some action => s.beginCleanUp id action
  | .ended _ => s

/-- The server after the next step of a run. -/
def work (id : RunId) : Server :=
  match s.runs[id]? with
  | none => s
  | some run =>
    match run.activity with
    | .ready => s.proceed id run
    | .calling action => s.handle id run action
    | .returned action error => s.takeUp id run action error
    | .waiting line milliseconds deadline =>
      let work : Work := ⟨id, run.isCleaning, .delay line milliseconds⟩
      if run.phase = .draining true then
        (s.log (.waitInterrupted milliseconds)).conclude work none
      else if deadline ≤ s.clock then s.conclude work none
      else s

end CommandTimelines.Server
