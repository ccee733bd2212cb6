import CommandTimelines.Path
import CommandTimelines.Server.Basic

/-!
# Stopping

A stop claims the end of a run and then waits until the run has ended, clean-up included. It
can claim only a run whose body is still being drained and that no other stop has claimed;
any other stop is refused at once.
-/

namespace CommandTimelines.Server

variable (s : Server)

/-- The server after a stop has claimed the end of a run; none if the end is not to be had. A
run that was waiting is roused and so has to take its turn. -/
def claim? (ticket : Ticket) (id : RunId) : Option Server :=
  match s.runs[id]? with
  | none => none
  | some run =>
    if run.phase = .draining false then
      let s := s.updateRun id fun r => { r with phase := .draining true }
      let s := if run.isWaiting then s.yieldTurn id else s
      some ((s.record (.claimed id (some ticket))).log (.stopping run.key))
    else none

/-- The server with one more request waiting. -/
def await (p : Pending) : Server := { s with pending := s.pending ++ [p] }

/-- A request to stop the timeline of a file. -/
def stop (ticket : Ticket) (asker : Asker) (file : String) : Server :=
  match Path.key? file with
  | none => s.answer ticket (asker.reply (some (.invalidPath file)))
  | some key =>
    match (s.currentRun? key).bind fun id => (s.claim? ticket id).map fun s' => (id, s') with
    | none => s.answer ticket (asker.reply (some (.notRunning key)))
    | some (id, s') => s'.await (.stopping ticket asker id)

/-- Whether a run is the current or last one of its timeline. -/
def isCurrent (id : RunId) : Bool := s.currentRun? (s.runName id) == some id

/-- The current or last runs of all timelines, in the order of their starts. -/
def currentRuns : List RunId := (List.range s.runs.length).filter s.isCurrent

/-- A request to stop runs one after the other, in the order given. -/
def stopEach (ticket : Ticket) (ids : List RunId) : Server :=
  s.await (.stoppingAll ticket none ids 0)

/-- A request to stop every running timeline. -/
def stopAll (ticket : Ticket) : Server := s.stopEach ticket s.currentRuns

/-- A request to be told when the current run of a file's timeline has ended; none if there
is no such run. -/
def awaitEnd? (ticket : Ticket) (file : String) : Option Server :=
  ((Path.key? file).bind s.currentRun?).map fun id => s.await (.finishing ticket id)

/-- Whether a request can go on. -/
def isDue : Pending → Bool
  | .stopping _ _ id => s.hasEnded id
  | .finishing _ id => s.hasEnded id
  | .stoppingAll _ (some id) _ _ => s.hasEnded id
  | .stoppingAll _ none _ _ => true

/-- The server with the request at a position put forward or answered. -/
def serve (i : Nat) : Server :=
  match s.pending[i]? with
  | none => s
  | some p =>
    if !s.isDue p then s
    else
      let done := { s with pending := s.pending.eraseIdx i }
      match p with
      | .stopping ticket asker id =>
        (done.log (.stopped (s.runName id))).answer ticket (asker.reply none)
      | .finishing ticket id => done.answer ticket (.ended (s.runState id))
      | .stoppingAll ticket (some id) rest count =>
        { s with pending := s.pending.set i (.stoppingAll ticket none rest (count + 1)) }.log
          (.stopped (s.runName id))
      | .stoppingAll ticket none (id :: rest) count =>
        match s.claim? ticket id with
        | none =>
          { s with pending := s.pending.set i (.stoppingAll ticket none rest count) }
        | some s' =>
          { s' with pending := s'.pending.set i (.stoppingAll ticket (some id) rest count) }
      | .stoppingAll ticket none [] count =>
        (if count = 0 then done else done.log (.stoppedAll count)).answer ticket
          (.stoppedAll count)

end CommandTimelines.Server
