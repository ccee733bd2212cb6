import CommandTimelines.Server.Clock
import CommandTimelines.Server.Execute

/-!
# Sessions

A session is a server together with the files that its timelines are read from, driven step by
step. After each step everything happens that can happen without time passing; time passes
only in a step that says so. `Session.report` says what came of a step: its result, what was
called, published, answered and noted meanwhile, and the time at its end.
-/

namespace CommandTimelines

open Host Text

/-- A server and the files its timelines are read from. -/
structure Session where
  files : Files := {}
  server : Server := {}
deriving DecidableEq, Repr

/-- Something to be done in a session. -/
inductive Step where
  | start (file : String) (args : List String)
  /-- Two starts, both of which read the file before either sets up its run. -/
  | startTwice (file : String) (args : List String)
  | stop (file : String)
  | stopAll
  /-- Asks to be told when the run of a file has ended. -/
  | finished (file : String)
  | execute (actor : Actor) (args : List String)
  | running
  | state (file : String)
  | advance (milliseconds : Nat)
  | write (path : String) (node : Node)
  | remove (path : String)
  | register (command : Command)
  | await (response : Awaiting)
  | awaited (keys : List String)
  /-- Looks commands up by a name, and tries names on them. -/
  | find (name : String) (names : List String)
  | commands
  /-- Calls every command that answers to a name. -/
  | call (name : String) (invocation : Invocation)
  /-- Calls the handler that awaits a response. -/
  | respond (key : String) (invocation : Invocation)
deriving Repr

/-- How much time a step lets pass. -/
def Step.duration : Step → Nat
  | .advance milliseconds => milliseconds
  | _ => 0

/-- A timeline as it is shown. -/
structure TimelineView where
  state : RunState
  /-- How many actions its runs have begun. -/
  begun : Nat
  /-- The name and the state of the current or last run. -/
  run : Option (String × RunState)
deriving DecidableEq, Repr

/-- A command as it is shown, and whether it answers to the names tried on it. -/
structure CommandView where
  command : Command
  answers : List Bool
deriving DecidableEq, Repr

/-- The result of a step, apart from answers that may come later. -/
inductive Result where
  | none
  /-- What became of starts: the key of each run, or the error. -/
  | started (result : Except TimelineError String)
  | startedTwice (first second : Except TimelineError String)
  /-- There is no run to wait for. -/
  | noRun
  | running (keys : List String)
  | state (view : Option TimelineView)
  /-- How many responses are awaited, and whether given keys are. -/
  | awaited (count : Nat) (present : List Bool)
  | found (commands : List CommandView)
  | commands (list : List Command)
  | called (outcomes : List Outcome)
  /-- What became of a response, if it was awaited. -/
  | responded (outcome : Option Outcome)

/-- What came of a step. -/
structure Report where
  result : Result
  time : Nat
  calls : List Call
  events : Received
  answers : List (Ticket × Reply)
  notes : List Note

namespace Session

variable (session : Session)

/-- The session with another server. -/
def withServer (server : Server) : Session := { session with server }

/-! ### Single steps -/

/-- The key of a run that was started, or the error. -/
def startResult (server : Server) (result : Except TimelineError RunId) :
    Except TimelineError String :=
  result.map server.runName

/-- Two starts of a file whose readings both come first. -/
def startTwice (file : String) (args : List String) : Session × Result :=
  let server := session.server
  match Opening.read server.settings.root session.files file args with
  | .error error => (session, .startedTwice (.error error) (.error error))
  | .ok o =>
    let (server, first) := server.commit o
    let (server, second) := server.commit o
    (session.withServer server,
      .startedTwice (startResult server first) (startResult server second))

/-- How a file's timeline is shown, if there is one. -/
def view? (file : String) : Option TimelineView :=
  ((Path.key? file).bind session.server.timeline?).map fun t =>
    { state := session.server.stateOf t
      begun := t.begun
      run := t.current.map fun id =>
        (session.server.runName id, session.server.runState id) }

/-- The session right after a step, before anything else has happened, and the step's
result. `index` is the number of the step. -/
def perform (index : Nat) : Step → Session × Result
  | .start file args =>
    let (server, result) := session.server.start session.files file args
    (session.withServer server, .started (startResult server result))
  | .startTwice file args => session.startTwice file args
  | .stop file =>
    (session.withServer (session.server.stop ⟨index, file⟩ .program file), .none)
  | .stopAll => (session.withServer (session.server.stopAll ⟨index, ""⟩), .none)
  | .finished file =>
    match session.server.awaitEnd? ⟨index, file⟩ file with
    | none => (session, .noRun)
    | some server => (session.withServer server, .none)
  | .execute actor args =>
    (session.withServer (session.server.execute ⟨index, ""⟩ session.files actor args), .none)
  | .running => (session, .running session.server.running)
  | .state file => (session, .state (session.view? file))
  | .advance _ => (session, .none)
  | .write path node =>
    ({ session with files := session.files.write (Files.pathOf path) node }, .none)
  | .remove path => ({ session with files := session.files.remove (Files.pathOf path) }, .none)
  | .register command => (session.withServer (session.server.register command), .none)
  | .await response => (session.withServer (session.server.expect response), .none)
  | .awaited keys =>
    let awaiting := session.server.awaiting
    (session, .awaited awaiting.length (keys.map fun key => awaiting.any (·.answersTo key)))
  | .find name names =>
    let found := Command.allNamed session.server.commands name
    (session, .found (found.map fun command => ⟨command, names.map command.answersTo⟩))
  | .commands => (session, .commands (Command.sorted session.server.commands))
  | .call name invocation =>
    let found := Command.allNamed session.server.commands name
    let (server, outcomes) := session.server.callEach invocation found
    (session.withServer server, .called outcomes)
  | .respond key invocation =>
    match session.server.respond? none key invocation with
    | none => (session, .responded none)
    | some (server, outcome) => (session.withServer server, .responded (some outcome))

/-! ### Reports -/

/-- The session after a step and everything that follows from it. -/
def after (index : Nat) (step : Step) : Session :=
  let next := (session.perform index step).1
  next.withServer (next.server.settle.advance step.duration)

/-- The entries of a journal since it had a length, earliest first. -/
def since (length : Nat) (journal : List Entry) : List Entry :=
  (journal.take (journal.length - length)).reverse

/-- What a subscriber gets of the events in a step. When every timeline is stopped, the events
are put in the order of the timelines' names. -/
def received (capacity : Nat) (step : Step) (entries : List Entry) : Received :=
  let all := receive capacity (entries.filterMap (·.event?))
  match step with
  | .stopAll => { all with events := sortBy (fun e f => decide (e.name ≤ f.name)) all.events }
  | _ => all

/-- Answers in the order of the steps that asked for them and of the files these named. What
no step asked for comes first. -/
def inOrder (answers : List (Ticket × Reply)) : List (Ticket × Reply) :=
  sortBy (fun a b => a.1.isBefore b.1) answers

/-- What came of a step. -/
def report (index : Nat) (step : Step) : Report :=
  let done := (session.after index step).server
  let entries := since session.server.journal.length done.journal
  { result := (session.perform index step).2
    time := done.clock
    calls := entries.filterMap (·.call?)
    events := received session.server.settings.eventCapacity step entries
    answers := inOrder (entries.filterMap (·.answer?))
    notes := entries.filterMap (·.note?) }

/-- What came of steps, the first of which has the number `index`. -/
def reportsFrom (index : Nat) : Session → List Step → List Report
  | _, [] => []
  | session, step :: rest =>
    session.report index step :: reportsFrom (index + 1) (session.after index step) rest

/-- What came of steps. -/
def reports (steps : List Step) : List Report := session.reportsFrom 0 steps

/-- The session after steps, the first of which has the number `index`. -/
def runFrom (index : Nat) : Session → List Step → Session
  | session, [] => session
  | session, step :: rest => runFrom (index + 1) (session.after index step) rest

/-- The session after steps. -/
def run (steps : List Step) : Session := session.runFrom 0 steps

end Session

end CommandTimelines
