import CommandTimelines.Server.Clock
import CommandTimelines.Server.Execute
import Mathlib.Logic.Relation

/-!
# Changes of the server

Whatever happens in the server is made up of a few kinds of changes, each of one instant.

* `Run.Next` says what one step makes of a run, and which facts come about by it.
* `Server.Follows` says how the waiting requests change as a run goes on, and `Server.Served`
  how they change by themselves.
* `Server.Change` says what becomes of the server, and `Server.Changes` joins changes.

Every operation of the server is a series of changes. So what all changes preserve holds
whatever is done, and in whatever order.
-/

namespace CommandTimelines

open Host Script Text

/-! ### Facts of runs -/

/-- The run that a fact is about. -/
def Fact.run? : Fact → Option RunId
  | .began work => some work.run
  | .over work _ => some work.run
  | .called caller _ => caller.map (·.run)
  | .claimed run _ => some run
  | .published run _ => some run
  | .noted _ => none
  | .answered _ _ => none

/-- How many runs a reply says were stopped. -/
def Reply.stops : Reply → Nat
  | .stopped none => 1
  | .stopped (some _) => 0
  | .stoppedAll count => count
  | .ended _ => 0
  | .feedback (.success message) =>
    if " was stopped.".toList <:+ message.toList then 1 else 0
  | .feedback _ => 0

/-- How many runs were stopped by the request that a fact answers. -/
def Fact.stops : Fact → Nat
  | .answered _ reply => reply.stops
  | _ => 0

/-! ### Steps of a run -/

/-- What a run is doing after an action has begun at a time. -/
def Activity.of (now : Nat) : Action → Activity
  | .delay _ 0 => .ready
  | .delay line milliseconds =>
    .waiting line milliseconds (now + min milliseconds Server.longestWait)
  | action => .calling action

/-- What comes about together with the beginning of an action: a wait of no time is over. -/
def Work.atOnce (work : Work) : List Fact :=
  match work.action with
  | .delay _ 0 => [.over work none]
  | _ => []

/-- All that can come about together with the beginning of an action is its end. -/
theorem Work.eq_of_mem_atOnce {work : Work} {fact : Fact} (h : fact ∈ work.atOnce) :
  fact = .over work none
  := by
  rw [atOnce] at h
  split at h
  · apply List.mem_singleton.mp h
  · cases h

/-- The call that an action at work may make, and how it fails. -/
inductive Work.Makes (work : Work) : Option Call → Option StepError → Prop
  | delay {line milliseconds : Nat} (h : work.action = .delay line milliseconds) :
      Makes work none none
  | invoke {line : Nat} {name raw : String} {c : Command} {silent : Bool} {args : List String}
      (h : work.action = .invoke line name c raw silent args) :
      Makes work (some ⟨.command c, { raw, silent, args }⟩)
        (Server.stepError? (.command name) c.behaviour.outcome)
  /-- Nobody awaits the response. -/
  | idle {line : Nat} {key raw : String} {args : List String}
      (h : work.action = .deliver line key raw args) :
      Makes work none none
  | deliver {line : Nat} {key raw : String} {args : List String} {a : Awaiting}
      (h : work.action = .deliver line key raw args) (ha : a.answersTo key) :
      Makes work (some ⟨.response a, { raw, args }⟩)
        (Server.stepError? (.response key) a.behaviour.outcome)

/-- What is published about an action that is over: the failure of a step of the body. -/
def Run.failure (id : RunId) (run : Run) (line : Nat) (error : Option StepError) : List Fact :=
  match run.phase with
  | .draining _ => error.toList.map fun e => .published id (.failed run.key line e)
  | _ => []

theorem Run.failure_of_draining {id : RunId} {run : Run} {stopping : Bool}
    (h : run.phase = .draining stopping) (line : Nat) (error : Option StepError) :
  run.failure id line error = error.toList.map fun e => .published id (.failed run.key line e)
  := by
  simp [failure, h]

theorem Run.failure_of_not_draining {id : RunId} {run : Run}
    (h : ∀ stopping, run.phase ≠ .draining stopping) (line : Nat) (error : Option StepError) :
  run.failure id line error = []
  := by
  rw [failure]
  split
  · rename_i stopping hphase
    apply absurd hphase (h stopping)
  · rfl

/-- `Run.Next id now run facts run'`: at the time `now` one step makes `run'` of the run
`run`, whose number is `id`, and the facts come about, earliest first. -/
inductive Run.Next (id : RunId) (now : Nat) : Run → List Fact → Run → Prop
  | beginBody {run : Run} {action : Action} (hphase : run.phase = .draining false)
      (hready : run.activity = .ready) (hnext : run.nextOfBody? = some action) :
      Next id now run (.began ⟨id, false, action⟩ :: Work.atOnce ⟨id, false, action⟩)
        { run with begun := run.begun + 1, activity := .of now action }
  | beginCleanUp {run : Run} {action : Action} {cancelled : Bool}
      (hphase : run.phase = .cleaning cancelled) (hready : run.activity = .ready)
      (hnext : run.nextOfCleanUp? = some action) :
      Next id now run (.began ⟨id, true, action⟩ :: Work.atOnce ⟨id, true, action⟩)
        { run with cleaned := run.cleaned + 1, activity := .of now action }
  | call {run : Run} {action : Action} {call : Option Call} {error : Option StepError}
      (hcalling : run.activity = .calling action)
      (hmakes : Work.Makes ⟨id, run.isCleaning, action⟩ call error) :
      Next id now run (call.toList.map (.called (some ⟨id, run.isCleaning, action⟩)))
        { run with activity := .returned action error }
  | takeUp {run : Run} {action : Action} {error : Option StepError}
      (hreturned : run.activity = .returned action error) :
      Next id now run
        (.over ⟨id, run.isCleaning, action⟩ error :: run.failure id action.line error)
        { run with activity := .ready }
  /-- A wait is over when the clock has reached its deadline. One of the body is cut short
  by a stop. -/
  | wake {run : Run} {line milliseconds deadline : Nat}
      (hwaiting : run.activity = .waiting line milliseconds deadline)
      (hdue : run.phase = .draining true ∨ deadline ≤ now) :
      Next id now run [.over ⟨id, run.isCleaning, .delay line milliseconds⟩ none]
        { run with activity := .ready }
  /-- A stop claims the end of the run. -/
  | stop {run : Run} (ticket : Ticket) (hphase : run.phase = .draining false) :
      Next id now run [.claimed id (some ticket)] { run with phase := .draining true }
  /-- The run claims its own end. -/
  | drain {run : Run} (hphase : run.phase = .draining false)
      (hready : run.activity = .ready) (hnext : run.nextOfBody? = none) :
      Next id now run [.claimed id none] { run with phase := .cleaning false }
  | leave {run : Run} (hphase : run.phase = .draining true)
      (hready : run.activity = .ready) :
      Next id now run [] { run with phase := .cleaning true }
  | finish {run : Run} {cancelled : Bool} (hphase : run.phase = .cleaning cancelled)
      (hready : run.activity = .ready) (hnext : run.nextOfCleanUp? = none) :
      Next id now run [.published id (.finished run.key cancelled)]
        { run with phase := .ended cancelled }

namespace Server

/-! ### Changes -/

/-- How the waiting requests change as a run goes on: only a stop that claims the end of the
run begins to wait for it. -/
inductive Follows (id : RunId) (pending : List Pending) : List Fact → List Pending → Prop
  | own {facts : List Fact} (h : ∀ ticket, .claimed id (some ticket) ∉ facts) :
      Follows id pending facts pending
  | stop (ticket : Ticket) (asker : Asker) :
      Follows id pending [.claimed id (some ticket)] (pending ++ [.stopping ticket asker id])
  /-- A stop of several runs claims the end of the next one. -/
  | stopNext {i : Nat} {ticket : Ticket} {rest : List RunId} {count : Nat}
      (h : pending[i]? = some (.stoppingAll ticket none (id :: rest) count)) :
      Follows id pending [.claimed id (some ticket)]
        (pending.set i (.stoppingAll ticket (some id) rest count))

/-- How the waiting requests change by themselves, and which facts come about. -/
inductive Served (s : Server) : List Pending → List Fact → Prop
  | finishing (ticket : Ticket) {key : String} {id : RunId} (h : s.currentRun? key = some id) :
      Served s (s.pending ++ [.finishing ticket id]) []
  | stoppingAll (ticket : Ticket) (ids : List RunId) :
      Served s (s.pending ++ [.stoppingAll ticket none ids 0]) []
  /-- The end of the next run is not to be had. -/
  | skip {i : Nat} {ticket : Ticket} {id : RunId} {rest : List RunId} {count : Nat}
      (h : s.pending[i]? = some (.stoppingAll ticket none (id :: rest) count))
      (hclaim : s.claim? ticket id = none) :
      Served s (s.pending.set i (.stoppingAll ticket none rest count)) []
  | counted {i : Nat} {ticket : Ticket} {id : RunId} {rest : List RunId} {count : Nat}
      (h : s.pending[i]? = some (.stoppingAll ticket (some id) rest count))
      (hended : s.hasEnded id) :
      Served s (s.pending.set i (.stoppingAll ticket none rest (count + 1))) []
  | stopped {i : Nat} {ticket : Ticket} {asker : Asker} {id : RunId}
      (h : s.pending[i]? = some (.stopping ticket asker id)) (hended : s.hasEnded id) :
      Served s (s.pending.eraseIdx i) [.answered ticket (asker.reply none)]
  | ended {i : Nat} {ticket : Ticket} {id : RunId}
      (h : s.pending[i]? = some (.finishing ticket id)) (hended : s.hasEnded id) :
      Served s (s.pending.eraseIdx i) [.answered ticket (.ended (s.runState id))]
  | stoppedAll {i : Nat} {ticket : Ticket} {count : Nat}
      (h : s.pending[i]? = some (.stoppingAll ticket none [] count)) :
      Served s (s.pending.eraseIdx i) [.answered ticket (.stoppedAll count)]

variable (s : Server)

/-- The journal after facts, earliest first, have come about. -/
def journalWith (facts : List Fact) : List Entry :=
  (facts.map (Entry.mk s.clock)).reverse ++ s.journal

/-- The timelines after one of them has begun more actions. -/
def timelinesWith (key : String) (more : Nat) : List Timeline :=
  s.timelines.map fun t => if t.key = key then { t with begun := t.begun + more } else t

/-- The timelines after one of them has got a new run. -/
def timelinesAt (key : String) (id : RunId) : List Timeline :=
  s.timelines.map fun t => if t.key = key then { t with current := some id } else t

/-- One change of the server. -/
inductive Change : Server → Prop
  /-- Nothing that concerns timelines, requests or what becomes of runs. -/
  | aside (commands : List Command) (awaiting : List Awaiting) {turns : List RunId}
      {clock : Nat} (hturns : s.turns ⊆ turns) (hclock : s.clock ≤ clock) :
      Change { s with commands, awaiting, turns, clock }
  /-- A fact about no run, nor about a stop that succeeded. -/
  | record (fact : Fact) (hrun : fact.run? = none) (hstops : fact.stops = 0) :
      Change (s.record fact)
  | enroll (key : String) : Change (s.enroll key)
  /-- A run is set up, of what was read by one start. -/
  | launch (o : Opening) (body cleanUp : List Action) (hidle : s.isActive o.key = false)
      (hknown : (s.timeline? o.key).isSome) (hbody : s.bodyOf o = .ok body)
      (hcleanUp : s.cleanUpOf o = .ok cleanUp) :
      Change { s with
        runs := s.runs ++ [({ key := o.key, body, cleanUp } : Run)]
        turns := (s.yieldTurn s.runs.length).turns
        timelines := s.timelinesAt o.key s.runs.length
        journal := s.journalWith
          [.published s.runs.length (.started o.key body.length)] }
  /-- A run goes on. -/
  | work {id : RunId} {run run' : Run} {facts : List Fact} {pending : List Pending}
      (hrun : s.runs[id]? = some run) (hnext : Run.Next id s.clock run facts run')
      (hfollows : Follows id s.pending facts pending) :
      Change { s with
        runs := s.runs.set id run'
        timelines := s.timelinesWith run.key (run'.begun - run.begun)
        pending
        journal := s.journalWith facts }
  /-- A request goes on. -/
  | serve {pending : List Pending} {facts : List Fact} (h : s.Served pending facts) :
      Change { s with pending, journal := s.journalWith facts }

/-- Any number of changes. -/
abbrev Changes : Server → Server → Prop := Relation.ReflTransGen Change

/-- The servers that come about from a new one by changes. -/
inductive Reachable : Server → Prop
  | new (settings : Settings) (commands : List Command) (awaiting : List Awaiting) :
      Reachable { settings, commands, awaiting }
  | change {s t : Server} (h : Reachable s) (hchange : s.Change t) : Reachable t

theorem Reachable.changes {s t : Server} (h : Reachable s) (hchanges : Changes s t) :
  Reachable t
  := by
  induction hchanges with
  | refl => apply h
  | tail _ hchange ih => apply ih.change hchange

end Server

end CommandTimelines
