import CommandTimelines.Event
import CommandTimelines.Note
import CommandTimelines.Operator.Feedback
import CommandTimelines.Run
import CommandTimelines.Settings
import CommandTimelines.Text.Pieces

/-!
# The server

The state in which timelines run: the commands and the awaited responses of the host, the
timelines known so far, their runs and the order in which these take turns, the requests that
wait for a run to end, a virtual clock, and a journal. Everything of note is written to the
journal, latest first: actions beginning, handlers called, ends of runs claimed, events, log
notes, and the answers to requests.
-/

namespace CommandTimelines

open Host Script Text

/-- What a request is answered to: the step that made it, none if a handler did, and the file
it named. -/
structure Ticket where
  step : Option Nat
  file : String
deriving DecidableEq, Repr

/-- Whether a ticket is at most another one in the order of steps and then of files. What no
step asked for comes first. -/
def Ticket.isBefore (a b : Ticket) : Bool :=
  match a.step, b.step with
  | none, none => a.file ≤ b.file
  | none, some _ => true
  | some _, none => false
  | some m, some n => m < n || (m == n && a.file ≤ b.file)

/-- The answer to a request that may have to wait. -/
inductive Reply where
  /-- A stop succeeded, or failed with an error. -/
  | stopped (error : Option TimelineError)
  /-- Every running timeline was stopped: how many there were. -/
  | stoppedAll (count : Nat)
  /-- A run has ended in a state. -/
  | ended (state : RunState)
  | feedback (message : Operator.Feedback)
deriving DecidableEq, Repr

/-- Who asks for a stop, and so how the answer is put. -/
inductive Asker where
  | program
  /-- An operator, who named a file. -/
  | operator (file : String)
deriving DecidableEq, Repr

/-- The answer to a stop. -/
def Asker.reply : Asker → Option TimelineError → Reply
  | .program, error => .stopped error
  | .operator file, error => .feedback (Operator.stopFeedback file error)

/-- A request that waits for a run to end. -/
inductive Pending where
  /-- A stop that has claimed the end of a run. -/
  | stopping (ticket : Ticket) (asker : Asker) (run : RunId)
  | finishing (ticket : Ticket) (run : RunId)
  /-- A stop of several runs in turn: the one it waits for, if it has claimed one, those it
  still has to look at, and how many it has stopped. -/
  | stoppingAll (ticket : Ticket) (current : Option RunId) (rest : List RunId) (count : Nat)
deriving DecidableEq, Repr

/-- What a call is addressed to. -/
inductive Target where
  | command (command : Command)
  | response (awaiting : Awaiting)
deriving DecidableEq, Repr

/-- What the handler of a target does. -/
def Target.behaviour : Target → Behaviour
  | .command c => c.behaviour
  | .response a => a.behaviour

/-- A call of a handler. -/
structure Call where
  target : Target
  invocation : Invocation
deriving DecidableEq, Repr

/-- What becomes of a call. -/
def Call.outcome (call : Call) : Outcome := call.target.behaviour.outcome

/-- An action at work in a run. -/
structure Work where
  run : RunId
  /-- Whether the action belongs to the clean-up of the run. -/
  ofCleanUp : Bool
  action : Action
deriving DecidableEq, Repr

/-- Something that has come about. -/
inductive Fact where
  /-- An action of a run began. -/
  | began (work : Work)
  /-- An action of a run was over, and how it failed if it did. -/
  | over (work : Work) (error : Option StepError)
  /-- A handler was called, by an action of a run or by someone else. -/
  | called (caller : Option Work) (call : Call)
  /-- The end of a run was claimed, by a stop or, if there is no ticket, by the run itself. -/
  | claimed (run : RunId) (stop : Option Ticket)
  | published (run : RunId) (event : Event)
  | noted (note : Note)
  | answered (ticket : Ticket) (reply : Reply)
deriving DecidableEq, Repr

/-- A fact and the time it came about. -/
structure Entry where
  time : Nat
  fact : Fact
deriving DecidableEq, Repr

/-- The call that an entry tells of. -/
def Entry.call? (entry : Entry) : Option Call :=
  match entry.fact with
  | .called _ call => some call
  | _ => none

/-- The event that an entry tells of. -/
def Entry.event? (entry : Entry) : Option Event :=
  match entry.fact with
  | .published _ event => some event
  | _ => none

/-- The note that an entry holds. -/
def Entry.note? (entry : Entry) : Option Note :=
  match entry.fact with
  | .noted note => some note
  | _ => none

/-- The answer that an entry tells of. -/
def Entry.answer? (entry : Entry) : Option (Ticket × Reply) :=
  match entry.fact with
  | .answered ticket reply => some (ticket, reply)
  | _ => none

/-- The state in which timelines run. -/
structure Server where
  settings : Settings := {}
  commands : List Command := []
  awaiting : List Awaiting := []
  timelines : List Timeline := []
  /-- The runs, by number. -/
  runs : List Run := []
  /-- The runs in the order in which they take turns. -/
  turns : List RunId := []
  pending : List Pending := []
  /-- Milliseconds since the beginning. -/
  clock : Nat := 0
  /-- What has come about, latest first. -/
  journal : List Entry := []
deriving DecidableEq, Repr

namespace Server

variable (s : Server)

/-! ### Writing to the journal -/

/-- The server after a fact. -/
def record (fact : Fact) : Server := { s with journal := ⟨s.clock, fact⟩ :: s.journal }

/-- The server after a note. -/
def log (note : Note) : Server := s.record (.noted note)

/-- The server after an event of a run. -/
def publish (run : RunId) (event : Event) : Server := s.record (.published run event)

/-- The server after the answer to a request. -/
def answer (ticket : Ticket) (reply : Reply) : Server := s.record (.answered ticket reply)

/-! ### Runs and timelines -/

/-- The server with one run changed. -/
def updateRun (id : RunId) (f : Run → Run) : Server := { s with runs := s.runs.modify id f }

/-- The server with a run put behind all other runs in the order of turns. -/
def yieldTurn (id : RunId) : Server := { s with turns := s.turns.filter (· ≠ id) ++ [id] }

/-- Yielding changes the order of the runs only. -/
theorem mem_turns_yieldTurn (id other : RunId) :
  other ∈ (s.yieldTurn id).turns ↔ other ∈ s.turns ∨ other = id
  := by
  by_cases h : other = id <;> simp [yieldTurn, h]

/-- The timeline with a key. -/
def timeline? (key : String) : Option Timeline := s.timelines.find? (·.key == key)

/-- The current run of a timeline, or its last one. -/
def currentRun? (key : String) : Option RunId := (s.timeline? key).bind (·.current)

/-- The state of a run; a run that does not exist is idle. -/
def runState (id : RunId) : RunState :=
  match s.runs[id]? with
  | some run => run.state
  | none => .idle

/-- Whether a run has been started and has not ended. -/
def isRunning (id : RunId) : Bool := s.runState id == .running

/-- Whether a run has ended. -/
def hasEnded (id : RunId) : Bool :=
  match s.runs[id]? with
  | some run => !run.isRunning
  | none => false

/-- The state of a timeline. -/
def stateOf (t : Timeline) : RunState :=
  match t.current with
  | some id => s.runState id
  | none => .idle

/-- Whether a timeline has a run that has not ended. -/
def isActive (key : String) : Bool :=
  match s.currentRun? key with
  | some id => s.isRunning id
  | none => false

/-- The keys of the running timelines, in order. -/
def running : List String :=
  sort ((s.timelines.filter fun t => s.stateOf t == .running).map (·.key))

/-- The server with one timeline changed. -/
def updateTimeline (key : String) (f : Timeline → Timeline) : Server :=
  { s with timelines := s.timelines.map fun t => if t.key = key then f t else t }

/-- The name of a run's timeline. -/
def runName (id : RunId) : String :=
  match s.runs[id]? with
  | some run => run.key
  | none => ""

end Server

end CommandTimelines
