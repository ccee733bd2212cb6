import CommandTimelines.Proofs.Header
import CommandTimelines.Proofs.Interleaving

/-!
# Failures forgiven

A handler may succeed, fail or panic. Let all those that fail or panic succeed instead, and let
nothing that was reported of a failure stand in the journal (`Server.pardoned`). Then each operation
of the server does the same as before, but for reports of failures. There is one lemma for each
operation. So what becomes of a call makes no difference to anything but these reports
(`Session.happens_pardoned`, `Session.run_pardoned`): in particular not to which actions begin
later, and when.
-/

namespace CommandTimelines

open Host Script Operator

/-! ### What is left without failures -/

/-- A handler that does the same, but succeeds instead of failing or panicking. -/
def Host.Behaviour.pardoned : Behaviour → Behaviour
  | .fail _ _ => .succeed
  | .panic _ => .succeed
  | .ask key answer => .ask key answer.pardoned
  | .succeed => .succeed
  | .stop => .stop

@[simp]
theorem Host.Behaviour.outcome_pardoned (behaviour : Behaviour) :
  behaviour.pardoned.outcome = .done
  := by
  cases behaviour <;> rfl

/-- A command whose handler does not fail. -/
def Host.Command.pardoned (c : Command) : Command := { c with behaviour := c.behaviour.pardoned }

/-- An awaited response whose handler does not fail. -/
def Host.Awaiting.pardoned (a : Awaiting) : Awaiting :=
  { a with behaviour := a.behaviour.pardoned }

/-- A call of a handler that does not fail. -/
def Call.pardoned (call : Call) : Call :=
  { call with
    target := match call.target with
      | .command c => .command c.pardoned
      | .response a => .response a.pardoned }

/-- An action whose handler does not fail. -/
def Script.Action.pardoned : Action → Action
  | .invoke line name c raw silent args => .invoke line name c.pardoned raw silent args
  | action => action

/-- The work of an action whose handler does not fail. -/
def Work.pardoned (work : Work) : Work := { work with action := work.action.pardoned }

/-- What a run does at the moment, if the handler of its action does not fail. -/
def Activity.pardoned : Activity → Activity
  | .calling action => .calling action.pardoned
  | .returned action _ => .returned action.pardoned none
  | activity => activity

/-- A run of actions whose handlers do not fail. -/
def Run.pardoned (run : Run) : Run :=
  { run with
    body := run.body.map (·.pardoned)
    cleanUp := run.cleanUp.map (·.pardoned)
    activity := run.activity.pardoned }

/-- What is left of a note: nothing if it tells of a failure. -/
def Note.pardoned? : Note → Option Note
  | .stepFailed _ _ _ => none
  | .cleanUpFailed _ _ _ => none
  | .beginning name action => some (.beginning name action.pardoned)
  | note => some note

/-- What is left of a fact: nothing if it tells of a failure. -/
def Fact.pardoned? : Fact → Option Fact
  | .began work => some (.began work.pardoned)
  | .over work _ => some (.over work.pardoned none)
  | .called caller call => some (.called (caller.map (·.pardoned)) call.pardoned)
  | .published _ (.failed _ _ _) => none
  | .noted note => note.pardoned?.map .noted
  | fact => some fact

/-- What is left of an entry: nothing if it tells of a failure. -/
def Entry.pardoned? (entry : Entry) : Option Entry :=
  entry.fact.pardoned?.map fun fact => { entry with fact }

/-- What scripts are read against, with commands whose handlers do not fail. -/
def Script.Scope.pardoned (scope : Scope) : Scope :=
  { scope with commands := scope.commands.map (·.pardoned) }

/-- The server without failures. -/
def Server.pardoned (s : Server) : Server :=
  { s with
    commands := s.commands.map (·.pardoned)
    awaiting := s.awaiting.map (·.pardoned)
    runs := s.runs.map (·.pardoned)
    journal := s.journal.filterMap (·.pardoned?) }

/-! ### Scripts -/

/-- Commands answer to the same names. -/
theorem Host.Command.allNamed_pardoned (commands : List Command) (name : String) :
  allNamed (commands.map (·.pardoned)) name = (allNamed commands name).map (·.pardoned)
  := List.filter_map

namespace Script

/-- What lines come to, if the handlers of their commands do not fail. -/
def Compiled.pardoned (result : Compiled) : Compiled := result.map (·.map (·.pardoned))

theorem Compiled.pardoned_followedBy (here later : Compiled) :
  (here.followedBy later).pardoned = here.pardoned.followedBy later.pardoned
  := by
  cases here with
  | error error => rfl
  | ok p =>
    cases later with
    | error error => rfl
    | ok q => simp [pardoned, Except.map]

namespace Scope

variable (scope : Scope)

theorem actionsOf_pardoned (number : Nat) (line : CommandLine) :
  scope.pardoned.actionsOf number line = Compiled.pardoned (scope.actionsOf number line)
  := by
  have hfind : Resolver.find scope.pardoned.commands line.name
      = (Resolver.find scope.commands line.name).map (·.pardoned) :=
    Command.allNamed_pardoned scope.commands line.name
  rw [actionsOf, actionsOf, hfind]
  cases Resolver.find scope.commands line.name with
  | nil => rfl
  | cons c rest =>
    have hallows : (((c :: rest).map (·.pardoned)).all (·.allowsConsole))
        = (c :: rest).all (·.allowsConsole) := by
      simp [Command.pardoned, Function.comp_def]
    rw [List.map_cons] at hallows ⊢
    simp only [hallows]
    split
    · simp [Compiled.pardoned, Except.map, Action.pardoned, Function.comp_def]
    · rfl

theorem fill_pardoned :
  scope.pardoned.fill = scope.fill
  := rfl

theorem compileText_pardoned (number : Nat) (text : List Char) :
  scope.pardoned.compileText number text = Compiled.pardoned (scope.compileText number text)
  := by
  unfold compileText
  rw [fill_pardoned]
  cases scope.fill number text with
  | error error => rfl
  | ok filled =>
    have hread : Directive.read scope.pardoned.specifiers filled
        (Resolver.split scope.pardoned.commands)
        = Directive.read scope.specifiers filled (Resolver.split scope.commands) := rfl
    simp only [Bind.bind, Except.bind, hread]
    cases Directive.read scope.specifiers filled (Resolver.split scope.commands) with
    | error fault => rfl
    | ok directive =>
      cases directive with
      | comment => rfl
      | wait milliseconds => rfl
      | require names => rfl
      | command line => apply actionsOf_pardoned

theorem compileLine_pardoned (number : Nat) (raw : List Char) :
  scope.pardoned.compileLine number raw = Compiled.pardoned (scope.compileLine number raw)
  := by
  rw [compileLine, compileLine]
  cases Line.read raw with
  | comment => rfl
  | text content => apply compileText_pardoned

theorem compileLines_pardoned (lines : List (List Char)) :
  ∀ number, scope.pardoned.compileLines number lines
    = Compiled.pardoned (scope.compileLines number lines)
  := by
  induction lines with
  | nil =>
    intro number
    rfl
  | cons line rest ih =>
    intro number
    rw [compileLines_cons, compileLines_cons, compileLine_pardoned, ih,
      Compiled.pardoned_followedBy]

theorem compileScript_pardoned (lines : List (List Char)) :
  ∀ number, scope.pardoned.compileScript number lines
    = Compiled.pardoned (scope.compileScript number lines)
  := by
  have hparams : scope.pardoned.params = scope.params := rfl
  induction lines with
  | nil =>
    intro number
    rfl
  | cons line rest ih =>
    intro number
    rw [compileScript, compileScript]
    cases Line.read line with
    | comment => apply ih
    | text content =>
      simp only [hparams]
      split
      · apply ih
      · split
        · split
          · rfl
          · apply compileLines_pardoned
        · apply compileLines_pardoned

end Scope

end Script

/-! ### Runs -/

namespace Run

variable (run : Run)

theorem nextOfBody?_pardoned :
  run.pardoned.nextOfBody? = run.nextOfBody?.map (·.pardoned)
  := List.getElem?_map

theorem nextOfCleanUp?_pardoned :
  run.pardoned.nextOfCleanUp? = run.nextOfCleanUp?.map (·.pardoned)
  := List.getElem?_map

theorem undone_pardoned :
  run.pardoned.undone = run.undone
  := by
  simp [undone, pardoned]

theorem uncleaned_pardoned :
  run.pardoned.uncleaned = run.uncleaned
  := by
  simp [uncleaned, pardoned]

theorem isWaiting_pardoned :
  run.pardoned.isWaiting = run.isWaiting
  := by
  obtain ⟨key, body, cleanUp, begun, cleaned, phase, activity⟩ := run
  cases activity <;> rfl

theorem canMove_pardoned (now : Nat) :
  run.pardoned.canMove now = run.canMove now
  := by
  obtain ⟨key, body, cleanUp, begun, cleaned, phase, activity⟩ := run
  cases activity <;> rfl

theorem load_pardoned :
  run.pardoned.load = run.load
  := by
  rw [load, load, undone_pardoned, uncleaned_pardoned]
  obtain ⟨key, body, cleanUp, begun, cleaned, phase, activity⟩ := run
  cases activity <;> rfl

end Run

/-- If a change of one element and a view of all elements commute, they do so in a list. -/
theorem map_modify_of_comm {α β : Type} {view : α → β} {f : β → β} {g : α → α}
    (h : ∀ x, f (view x) = view (g x)) (i : Nat) (xs : List α) :
  (xs.map view).modify i f = (xs.modify i g).map view
  := by
  apply List.ext_getElem?
  intro j
  simp only [List.getElem?_modify, List.getElem?_map]
  cases xs[j]? with
  | none => rfl
  | some x =>
    by_cases hij : i = j
    · simp [hij, h]
    · simp [hij]

namespace Server

variable (s : Server)

/-! ### Small changes -/

/-- A fact leaves in the journal what is left of it, -/
theorem record_pardoned (fact : Fact) {fact' : Fact} (h : fact.pardoned? = some fact') :
  s.pardoned.record fact' = (s.record fact).pardoned
  := by
  simp [record, pardoned, Entry.pardoned?, h]

/-- and a report of a failure leaves nothing. -/
theorem pardoned_record {fact : Fact} (h : fact.pardoned? = none) :
  (s.record fact).pardoned = s.pardoned
  := by
  simp [record, pardoned, Entry.pardoned?, h]

theorem log_pardoned (note : Note) {note' : Note} (h : note.pardoned? = some note') :
  s.pardoned.log note' = (s.log note).pardoned
  := by
  apply record_pardoned
  simp [Fact.pardoned?, h]

theorem pardoned_log {note : Note} (h : note.pardoned? = none) :
  (s.log note).pardoned = s.pardoned
  := by
  apply pardoned_record
  simp [Fact.pardoned?, h]

theorem runs_pardoned (id : RunId) :
  s.pardoned.runs[id]? = s.runs[id]?.map (·.pardoned)
  := List.getElem?_map

theorem updateRun_pardoned (f : Run → Run) (h : ∀ run : Run, f run.pardoned = (f run).pardoned)
    (id : RunId) :
  s.pardoned.updateRun id f = (s.updateRun id f).pardoned
  := by
  simp only [updateRun, pardoned, map_modify_of_comm h]

theorem setActivity_pardoned (id : RunId) (activity : Activity) :
  s.pardoned.setActivity id activity.pardoned = (s.setActivity id activity).pardoned
  := by
  have hruns : (s.runs.map (·.pardoned)).modify id
        (fun r => { r with activity := activity.pardoned })
      = (s.runs.modify id fun r => { r with activity }).map (·.pardoned) := by
    apply map_modify_of_comm
    intro run
    rfl
  simp only [setActivity, updateRun, pardoned, hruns]

theorem updateTimeline_pardoned (key : String) (f : Timeline → Timeline) :
  s.pardoned.updateTimeline key f = (s.updateTimeline key f).pardoned
  := rfl

theorem yieldTurn_pardoned (id : RunId) :
  s.pardoned.yieldTurn id = (s.yieldTurn id).pardoned
  := rfl

theorem setClock_pardoned (time : Nat) :
  s.pardoned.setClock time = (s.setClock time).pardoned
  := rfl

theorem enroll_pardoned (key : String) :
  s.pardoned.enroll key = (s.enroll key).pardoned
  := by
  have htimeline : s.pardoned.timeline? key = s.timeline? key := rfl
  rw [enroll, enroll, htimeline]
  split <;> rfl

theorem runState_pardoned :
  s.pardoned.runState = s.runState
  := by
  funext id
  rw [runState, runState, runs_pardoned]
  cases s.runs[id]? <;> rfl

theorem hasEnded_pardoned (id : RunId) :
  s.pardoned.hasEnded id = s.hasEnded id
  := by
  rw [hasEnded, hasEnded, runs_pardoned]
  cases s.runs[id]? <;> rfl

theorem runName_pardoned :
  s.pardoned.runName = s.runName
  := by
  funext id
  rw [runName, runName, runs_pardoned]
  cases s.runs[id]? <;> rfl

theorem isActive_pardoned (key : String) :
  s.pardoned.isActive key = s.isActive key
  := by
  have hcurrent : s.pardoned.currentRun? key = s.currentRun? key := rfl
  simp only [isActive, hcurrent, isRunning, runState_pardoned]

theorem running_pardoned :
  s.pardoned.running = s.running
  := by
  have htimelines : s.pardoned.timelines = s.timelines := rfl
  have hstate : s.pardoned.stateOf = s.stateOf := by
    funext t
    simp only [stateOf, runState_pardoned]
  rw [running, running, htimelines, hstate]

theorem currentRuns_pardoned :
  s.pardoned.currentRuns = s.currentRuns
  := by
  have hcurrent : s.pardoned.isCurrent = s.isCurrent := by
    have hcurrent : s.pardoned.currentRun? = s.currentRun? := rfl
    funext id
    rw [isCurrent, isCurrent, runName_pardoned, hcurrent]
  have hlength : s.pardoned.runs.length = s.runs.length := List.length_map _
  rw [currentRuns, currentRuns, hcurrent, hlength]

/-! ### Requests -/

theorem claim?_pardoned (ticket : Ticket) (id : RunId) :
  s.pardoned.claim? ticket id = (s.claim? ticket id).map (·.pardoned)
  := by
  rw [claim?, claim?, runs_pardoned]
  cases s.runs[id]? with
  | none => rfl
  | some run =>
    have hphase : run.pardoned.phase = run.phase := rfl
    have hupdate := s.updateRun_pardoned (fun r => { r with phase := .draining true })
      (fun _ => rfl) id
    simp only [Option.map_some, hphase, Run.isWaiting_pardoned, hupdate]
    split
    · split <;> rfl
    · rfl

theorem stop_pardoned (ticket : Ticket) (asker : Asker) (file : String) :
  s.pardoned.stop ticket asker file = (s.stop ticket asker file).pardoned
  := by
  rw [stop, stop]
  cases Path.key? file with
  | none => rfl
  | some key =>
    have hcurrent : s.pardoned.currentRun? key = s.currentRun? key := rfl
    simp only [hcurrent]
    cases s.currentRun? key with
    | none => rfl
    | some id =>
      simp only [Option.bind_some, claim?_pardoned]
      cases s.claim? ticket id <;> rfl

theorem awaitEnd?_pardoned (ticket : Ticket) (file : String) :
  s.pardoned.awaitEnd? ticket file = (s.awaitEnd? ticket file).map (·.pardoned)
  := by
  have hcurrent : s.pardoned.currentRun? = s.currentRun? := rfl
  rw [awaitEnd?, awaitEnd?, hcurrent, Option.map_map]
  rfl

theorem stopAll_pardoned (ticket : Ticket) :
  s.pardoned.stopAll ticket = (s.stopAll ticket).pardoned
  := by
  rw [stopAll, stopAll, currentRuns_pardoned]
  rfl

theorem isDue_pardoned (p : Pending) :
  s.pardoned.isDue p = s.isDue p
  := by
  cases p with
  | stopping ticket asker id => apply hasEnded_pardoned
  | finishing ticket id => apply hasEnded_pardoned
  | stoppingAll ticket current rest count =>
    cases current with
    | none => rfl
    | some id => apply hasEnded_pardoned

theorem serve_pardoned (i : Nat) :
  s.pardoned.serve i = (s.serve i).pardoned
  := by
  have hpending : s.pardoned.pending = s.pending := rfl
  rw [serve, serve, hpending]
  cases s.pending[i]? with
  | none => rfl
  | some p =>
    simp only [isDue_pardoned, runName_pardoned, runState_pardoned, claim?_pardoned]
    split
    · rfl
    · cases p with
      | stopping ticket asker id => rfl
      | finishing ticket id => rfl
      | stoppingAll ticket current rest count =>
        cases current with
        | some id => rfl
        | none =>
          cases rest with
          | nil =>
            simp only
            split <;> rfl
          | cons id rest =>
            simp only
            cases s.claim? ticket id <;> rfl

/-! ### Starts -/

theorem bodyOf_pardoned (o : Opening) :
  s.pardoned.bodyOf o = Compiled.pardoned (s.bodyOf o)
  := (s.scope o.key o.args).compileScript_pardoned (Text.lines o.text.toList) 1

theorem cleanUpOf_pardoned (o : Opening) :
  s.pardoned.cleanUpOf o = Compiled.pardoned (s.cleanUpOf o)
  := (s.scope o.key []).compileLines_pardoned
    (Text.lines (Text.join "\n" s.settings.cleanUp).toList) 1

theorem launch_pardoned (o : Opening) (body cleanUp : List Action) :
  s.pardoned.launch o (body.map (·.pardoned)) (cleanUp.map (·.pardoned))
    = (s.launch o body cleanUp).pardoned
  := by
  have hlength : s.pardoned.runs.length = s.runs.length := List.length_map _
  simp only [launch, hlength, List.length_map]
  simp [pardoned, Run.pardoned, Activity.pardoned, publish, log, record, yieldTurn,
    updateTimeline, Entry.pardoned?, Fact.pardoned?, Note.pardoned?]

theorem commit_pardoned (o : Opening) :
  s.pardoned.commit o = ((s.commit o).1.pardoned, (s.commit o).2)
  := by
  rw [commit, commit, isActive_pardoned]
  split
  · rfl
  · simp only [enroll_pardoned, bodyOf_pardoned]
    cases (s.enroll o.key).bodyOf o with
    | error error => rfl
    | ok body =>
      have hcompiled := (s.enroll o.key).log_pardoned (.compiled o.key body.length) rfl
      simp only [Compiled.pardoned, Except.map, List.length_map, hcompiled, cleanUpOf_pardoned]
      cases ((s.enroll o.key).log (.compiled o.key body.length)).cleanUpOf o with
      | error error => rfl
      | ok cleanUp =>
        apply Prod.ext
        · apply launch_pardoned
        · exact congrArg Except.ok (List.length_map _)

theorem start_pardoned (files : Files) (file : String) (args : List String) :
  s.pardoned.start files file args
    = ((s.start files file args).1.pardoned, (s.start files file args).2)
  := by
  have hsettings : s.pardoned.settings = s.settings := rfl
  rw [start, start, hsettings]
  split
  · rfl
  · apply commit_pardoned

theorem execute_pardoned (ticket : Ticket) (files : Files) (actor : Actor) (args : List String) :
  s.pardoned.execute ticket files actor args = (s.execute ticket files actor args).pardoned
  := by
  unfold execute
  simp only
  split
  · rfl
  · cases Request.ofArgs args with
    | start file args =>
      simp only [grant, start_pardoned]
      rfl
    | stop file => apply stop_pardoned
    | list =>
      simp only [grant, running_pardoned]
      rfl
    | unclear file => rfl

/-! ### Calls -/

theorem register_pardoned (c : Command) :
  s.pardoned.register c.pardoned = (s.register c).pardoned
  := by
  simp [register, pardoned]

theorem expect_pardoned (a : Awaiting) :
  s.pardoned.expect a.pardoned = (s.expect a).pardoned
  := by
  simp [expect, pardoned, Awaiting.register, List.filter_map, Function.comp_def,
    Awaiting.pardoned, Awaiting.answersTo]

theorem react_pardoned (invocation : Invocation) (behaviour : Behaviour) :
  s.pardoned.react invocation behaviour.pardoned = (s.react invocation behaviour).pardoned
  := by
  cases behaviour with
  | succeed => rfl
  | fail message context => rfl
  | panic message => rfl
  | ask key answer => exact s.expect_pardoned ⟨key, answer, some invocation⟩
  | stop => apply stop_pardoned

theorem call_pardoned (caller : Option Work) (c : Call) :
  s.pardoned.call (caller.map (·.pardoned)) c.pardoned = (s.call caller c).pardoned
  := by
  have hbehaviour : c.pardoned.target.behaviour = c.target.behaviour.pardoned := by
    obtain ⟨target, invocation⟩ := c
    cases target <;> rfl
  have hrecord := s.record_pardoned (.called caller c) rfl
  rw [call, call, hbehaviour, hrecord]
  apply react_pardoned

theorem callCommand_pardoned (caller : Option Work) (c : Command) (invocation : Invocation) :
  s.pardoned.callCommand (caller.map (·.pardoned)) c.pardoned invocation
    = (s.callCommand caller c invocation).pardoned
  := by
  have hlog := s.log_pardoned (.executed invocation.actor.name invocation.raw) rfl
  have haudited : c.pardoned.isAudited = c.isAudited := rfl
  unfold callCommand
  simp only [hlog, haudited]
  split <;> exact call_pardoned _ caller ⟨.command c, invocation⟩

/-- The calls go the same way, and what becomes of them is another matter. -/
theorem callEach_pardoned (invocation : Invocation) (found : List Command) :
  ∀ s : Server, (s.pardoned.callEach invocation (found.map (·.pardoned))).1
    = (s.callEach invocation found).1.pardoned
  := by
  induction found with
  | nil =>
    intro s
    rfl
  | cons c rest ih =>
    intro s
    have hcall := s.callCommand_pardoned none c invocation
    rw [Option.map_none] at hcall
    rw [List.map_cons, callEach, callEach, hcall, ih]

theorem take_pardoned (awaiting : List Awaiting) (key : String) :
  Awaiting.take (awaiting.map (·.pardoned)) key
    = (Awaiting.take awaiting key).map fun (a, rest) => (a.pardoned, rest.map (·.pardoned))
  := by
  rw [Awaiting.take, Awaiting.take, List.find?_map, List.filter_map, Option.map_map,
    Option.map_map]
  rfl

theorem respond?_pardoned (caller : Option Work) (key : String) (invocation : Invocation) :
  s.pardoned.respond? (caller.map (·.pardoned)) key invocation
    = (s.respond? caller key invocation).map fun (s, _) => (s.pardoned, .done)
  := by
  have hawaiting : s.pardoned.awaiting = s.awaiting.map (·.pardoned) := rfl
  rw [respond?, respond?, hawaiting, take_pardoned]
  cases Awaiting.take s.awaiting key with
  | none => rfl
  | some taken =>
    obtain ⟨a, rest⟩ := taken
    have hcall := call_pardoned { s with awaiting := rest } caller ⟨.response a, invocation⟩
    exact congrArg some (Prod.ext hcall (Behaviour.outcome_pardoned a.behaviour))

/-- No handler fails. -/
theorem failure?_pardoned (work : Work) :
  s.pardoned.failure? work.pardoned = none
  := by
  obtain ⟨id, ofCleanUp, action⟩ := work
  cases action with
  | delay line milliseconds => rfl
  | invoke line name c raw silent args =>
    have houtcome : c.pardoned.behaviour.outcome = .done := Behaviour.outcome_pardoned _
    simp only [failure?, Work.pardoned, Action.pardoned, houtcome]
    rfl
  | deliver line key raw args =>
    have hawaiting : s.pardoned.awaiting = s.awaiting.map (·.pardoned) := rfl
    simp only [failure?, Work.pardoned, Action.pardoned, hawaiting, take_pardoned]
    cases Awaiting.take s.awaiting key with
    | none => rfl
    | some taken =>
      simp only [Option.map_some, Option.bind_some, Awaiting.pardoned,
        Behaviour.outcome_pardoned]
      rfl

theorem carryOut_pardoned (work : Work) :
  s.pardoned.carryOut work.pardoned = (s.carryOut work).pardoned
  := by
  obtain ⟨id, ofCleanUp, action⟩ := work
  cases action with
  | delay line milliseconds => rfl
  | invoke line name c raw silent args =>
    exact s.callCommand_pardoned (some ⟨id, ofCleanUp, .invoke line name c raw silent args⟩) c
      { raw, silent, args }
  | deliver line key raw args =>
    have hrespond := s.respond?_pardoned (some ⟨id, ofCleanUp, .deliver line key raw args⟩) key
      { raw, args }
    simp only [Option.map_some, Work.pardoned, Action.pardoned] at hrespond
    simp only [carryOut, Work.pardoned, Action.pardoned, hrespond]
    cases s.respond? (some ⟨id, ofCleanUp, .deliver line key raw args⟩) key { raw, args } <;> rfl

/-! ### The work of a run -/

/-- However an action ended, it is over. -/
theorem conclude_pardoned (work : Work) (error : Option StepError) :
  s.pardoned.conclude work.pardoned none = (s.conclude work error).pardoned
  := by
  have hrecord := s.record_pardoned (.over work error) rfl
  rw [conclude, conclude, hrecord]
  exact setActivity_pardoned _ work.run .ready

theorem engage_pardoned (work : Work) :
  s.pardoned.engage work.pardoned = (s.engage work).pardoned
  := by
  obtain ⟨id, ofCleanUp, action⟩ := work
  cases action with
  | delay line milliseconds =>
    cases milliseconds with
    | zero => exact s.conclude_pardoned ⟨id, ofCleanUp, .delay line 0⟩ none
    | succ n =>
      exact s.setActivity_pardoned id
        (.waiting line (n + 1) (s.clock + min (n + 1) longestWait))
  | invoke line name c raw silent args =>
    exact congrArg (·.yieldTurn id)
      (s.setActivity_pardoned id (.calling (.invoke line name c raw silent args)))
  | deliver line key raw args =>
    exact congrArg (·.yieldTurn id)
      (s.setActivity_pardoned id (.calling (.deliver line key raw args)))

theorem beginBody_pardoned (id : RunId) (run : Run) (action : Action) :
  s.pardoned.beginBody id run.pardoned action.pardoned = (s.beginBody id run action).pardoned
  := by
  have hkey : run.pardoned.key = run.key := rfl
  have hlog := fun s : Server => s.log_pardoned (.beginning run.key action) rfl
  have hrecord := fun s : Server => s.record_pardoned (.began ⟨id, false, action⟩) rfl
  have hupdate := fun s : Server => s.updateRun_pardoned
    (fun r => { r with begun := r.begun + 1 }) (fun _ => rfl) id
  have hengage := fun s : Server => s.engage_pardoned ⟨id, false, action⟩
  simp only [Work.pardoned] at hrecord hengage
  simp only [beginBody, hkey, updateTimeline_pardoned, hlog, hrecord, hupdate, hengage]

theorem beginCleanUp_pardoned (id : RunId) (action : Action) :
  s.pardoned.beginCleanUp id action.pardoned = (s.beginCleanUp id action).pardoned
  := by
  have hrecord := s.record_pardoned (.began ⟨id, true, action⟩) rfl
  have hupdate := fun s : Server => s.updateRun_pardoned
    (fun r => { r with cleaned := r.cleaned + 1 }) (fun _ => rfl) id
  have hengage := fun s : Server => s.engage_pardoned ⟨id, true, action⟩
  simp only [Work.pardoned] at hrecord hengage
  simp only [beginCleanUp, hrecord, hupdate, hengage]

theorem turnToCleanUp_pardoned (id : RunId) (cancelled : Bool) :
  s.pardoned.turnToCleanUp id cancelled = (s.turnToCleanUp id cancelled).pardoned
  := by
  apply updateRun_pardoned
  intro run
  rfl

theorem finish_pardoned (id : RunId) (run : Run) (cancelled : Bool) :
  s.pardoned.finish id run.pardoned cancelled = (s.finish id run cancelled).pardoned
  := by
  have hupdate := s.updateRun_pardoned (fun r => { r with phase := .ended cancelled })
    (fun _ => rfl) id
  rw [finish, finish, hupdate]
  rfl

theorem claimOwnEnd_pardoned (id : RunId) (run : Run) :
  s.pardoned.claimOwnEnd id run.pardoned = (s.claimOwnEnd id run).pardoned
  := turnToCleanUp_pardoned ((s.record (.claimed id none)).log (.finished run.key)) id false

theorem leaveBody_pardoned (id : RunId) (run : Run) :
  s.pardoned.leaveBody id run.pardoned = (s.leaveBody id run).pardoned
  := by
  rw [leaveBody, leaveBody, Run.undone_pardoned]
  split
  · apply turnToCleanUp_pardoned
  · exact turnToCleanUp_pardoned (s.log (.cutShort run.key run.undone)) id true

theorem proceed_pardoned (id : RunId) (run : Run) :
  s.pardoned.proceed id run.pardoned = (s.proceed id run).pardoned
  := by
  have hphase : run.pardoned.phase = run.phase := rfl
  rw [proceed, proceed, hphase, Run.nextOfBody?_pardoned, Run.nextOfCleanUp?_pardoned]
  cases run.phase with
  | draining stopping =>
    cases stopping with
    | true => apply leaveBody_pardoned
    | false =>
      cases run.nextOfBody? with
      | none => apply claimOwnEnd_pardoned
      | some action => apply beginBody_pardoned
  | cleaning cancelled =>
    cases run.nextOfCleanUp? with
    | none => apply finish_pardoned
    | some action => apply beginCleanUp_pardoned
  | ended cancelled => rfl

theorem handle_pardoned (id : RunId) (run : Run) (action : Action) :
  s.pardoned.handle id run.pardoned action.pardoned = (s.handle id run action).pardoned
  := by
  have hfailure := s.failure?_pardoned ⟨id, run.isCleaning, action⟩
  have hactivity := s.setActivity_pardoned id
    (.returned action (s.failure? ⟨id, run.isCleaning, action⟩))
  have hcarry := fun s : Server => s.carryOut_pardoned ⟨id, run.isCleaning, action⟩
  have hcleaning : run.pardoned.isCleaning = run.isCleaning := rfl
  simp only [Work.pardoned, Activity.pardoned] at hfailure hactivity hcarry
  simp only [handle, hcleaning, hfailure, hactivity, hcarry, yieldTurn_pardoned]

/-- Whatever came of a call, the run goes on alike when it takes it up. -/
theorem takeUp_pardoned (id : RunId) (run : Run) (action : Action) (error : Option StepError) :
  s.pardoned.takeUp id run.pardoned action.pardoned none
    = (s.takeUp id run action error).pardoned
  := by
  have hconclude := fun s : Server => s.conclude_pardoned ⟨id, run.isCleaning, action⟩ error
  unfold takeUp
  cases error with
  | none => apply hconclude
  | some e =>
    simp only
    split
    · contradiction
    · rw [publish, pardoned_record _ rfl, ← conclude_pardoned, pardoned_log _ rfl]
      rfl
    · rw [← conclude_pardoned, pardoned_log _ rfl]
      rfl

theorem work_pardoned (id : RunId) :
  s.pardoned.work id = (s.work id).pardoned
  := by
  have hclock : s.pardoned.clock = s.clock := rfl
  rw [work, work, runs_pardoned, hclock]
  cases s.runs[id]? with
  | none => rfl
  | some run =>
    obtain ⟨key, body, cleanUp, begun, cleaned, phase, activity⟩ := run
    cases activity with
    | ready => apply proceed_pardoned
    | calling action => apply handle_pardoned
    | returned action error => apply takeUp_pardoned
    | waiting line milliseconds deadline =>
      simp only [Option.map_some, Run.pardoned, Activity.pardoned]
      split
      · rw [s.log_pardoned (.waitInterrupted milliseconds) rfl]
        apply conclude_pardoned _ ⟨id, _, .delay line milliseconds⟩
      · split
        · apply conclude_pardoned _ ⟨id, _, .delay line milliseconds⟩
        · rfl

theorem step_pardoned (move : Move) :
  s.pardoned.step move = (s.step move).pardoned
  := by
  cases move with
  | work id => apply work_pardoned
  | serve i => apply serve_pardoned

/-! ### Letting time pass -/

theorem moves_pardoned :
  s.pardoned.moves = s.moves
  := by
  have hserve : s.pardoned.canServe = s.canServe := by
    have hpending : s.pardoned.pending = s.pending := rfl
    have hdue : s.pardoned.isDue = s.isDue := funext s.isDue_pardoned
    funext i
    rw [canServe, canServe, hpending, hdue]
  have hwork : s.pardoned.canWork = s.canWork := by
    funext id
    rw [canWork, canWork, runs_pardoned]
    cases s.runs[id]? with
    | none => rfl
    | some run => apply run.canMove_pardoned
  rw [moves, moves, hserve, hwork]
  rfl

theorem load_pardoned :
  s.pardoned.load = s.load
  := by
  simp only [load, pardoned, List.foldr_map, Run.load_pardoned]

theorem deadlines_pardoned :
  s.pardoned.deadlines = s.deadlines
  := by
  rw [deadlines, deadlines, pardoned, List.filterMap_map]
  congr 1
  funext run
  obtain ⟨key, body, cleanUp, begun, cleaned, phase, activity⟩ := run
  cases activity <;> rfl

theorem settleIn_pardoned (n : Nat) :
  s.pardoned.settleIn n = (s.settleIn n).pardoned
  := by
  induction n generalizing s with
  | zero => rfl
  | succ n ih =>
    rw [settleIn, settleIn, moves_pardoned]
    cases s.moves with
    | nil => rfl
    | cons move rest => simp only [step_pardoned, ih]

theorem settle_pardoned :
  s.pardoned.settle = s.settle.pardoned
  := by
  rw [settle, settle, load_pardoned, settleIn_pardoned]

theorem advanceIn_pardoned (target n : Nat) :
  s.pardoned.advanceIn target n = (s.advanceIn target n).pardoned
  := by
  induction n generalizing s with
  | zero => rfl
  | succ n ih =>
    rw [advanceIn, advanceIn, deadlines_pardoned]
    split
    · rfl
    · rw [setClock_pardoned, settle_pardoned, ih]

theorem advance_pardoned (milliseconds : Nat) :
  s.pardoned.advance milliseconds = (s.advance milliseconds).pardoned
  := by
  have hclock : s.pardoned.clock = s.clock := rfl
  rw [advance, advance, load_pardoned, hclock, advanceIn_pardoned]

end Server

/-! ### Sessions -/

/-- A step that brings in nothing that fails. -/
def Step.pardoned : Step → Step
  | .register command => .register command.pardoned
  | .await response => .await response.pardoned
  | step => step

/-- A happening that brings in nothing that fails. -/
def Happening.pardoned : Happening → Happening
  | .perform index step => .perform index step.pardoned
  | x => x

namespace Session

variable (session : Session)

/-- The session without failures. -/
def pardoned : Session := { session with server := session.server.pardoned }

theorem startTwice_pardoned (file : String) (args : List String) :
  (session.pardoned.startTwice file args).1 = (session.startTwice file args).1.pardoned
  := by
  have hread : Opening.read session.pardoned.server.settings.root session.pardoned.files file args
      = Opening.read session.server.settings.root session.files file args := rfl
  rw [startTwice, startTwice]
  simp only [hread]
  cases Opening.read session.server.settings.root session.files file args with
  | error error => rfl
  | ok o => simp only [pardoned, Server.commit_pardoned, withServer]

theorem perform_pardoned (index : Nat) (step : Step) :
  (session.pardoned.perform index step.pardoned).1 = (session.perform index step).1.pardoned
  := by
  have hserver : session.pardoned.server = session.server.pardoned := rfl
  cases step with
  | start file args =>
    simp only [perform, Step.pardoned, hserver, Server.start_pardoned]
    rfl
  | startTwice file args => apply startTwice_pardoned
  | stop file =>
    simp only [perform, Step.pardoned, hserver, Server.stop_pardoned]
    rfl
  | stopAll =>
    simp only [perform, Step.pardoned, hserver, Server.stopAll_pardoned]
    rfl
  | finished file =>
    simp only [perform, Step.pardoned, hserver, Server.awaitEnd?_pardoned]
    cases session.server.awaitEnd? ⟨index, file⟩ file <;> rfl
  | execute actor args =>
    have hfiles : session.pardoned.files = session.files := rfl
    simp only [perform, Step.pardoned, hserver, hfiles, Server.execute_pardoned]
    rfl
  | register command =>
    simp only [perform, Step.pardoned, hserver, Server.register_pardoned]
    rfl
  | await response =>
    simp only [perform, Step.pardoned, hserver, Server.expect_pardoned]
    rfl
  | call name invocation =>
    have hfound : Command.allNamed session.server.pardoned.commands name
        = (Command.allNamed session.server.commands name).map (·.pardoned) :=
      Command.allNamed_pardoned session.server.commands name
    simp only [perform, Step.pardoned, hserver, hfound, Server.callEach_pardoned]
    rfl
  | respond key invocation =>
    have hrespond := session.server.respond?_pardoned none key invocation
    rw [Option.map_none] at hrespond
    simp only [perform, Step.pardoned, hserver, hrespond]
    cases session.server.respond? none key invocation <;> rfl
  | running => rfl
  | state file => rfl
  | advance milliseconds => rfl
  | write path node => rfl
  | remove path => rfl
  | awaited keys => rfl
  | find name names => rfl
  | commands => rfl

theorem happen_pardoned (x : Happening) :
  session.pardoned.happen x.pardoned = (session.happen x).pardoned
  := by
  have hserver : session.pardoned.server = session.server.pardoned := rfl
  cases x with
  | perform index step => apply perform_pardoned
  | commit opening =>
    simp only [happen, Happening.pardoned, hserver, Server.commit_pardoned]
    rfl
  | commitFor ticket file opening =>
    simp only [happen, Happening.pardoned, hserver, Server.commit_pardoned]
    rfl
  | stopEach ticket ids => rfl
  | move move =>
    simp only [happen, Happening.pardoned, hserver, Server.step_pardoned]
    rfl
  | pass milliseconds => rfl

theorem happens_pardoned (xs : List Happening) :
  ∀ session : Session, (xs.map (·.pardoned)).foldl happen session.pardoned
    = (xs.foldl happen session).pardoned
  := by
  induction xs with
  | nil =>
    intro session
    rfl
  | cons x rest ih =>
    intro session
    rw [List.map_cons, List.foldl_cons, List.foldl_cons, happen_pardoned, ih]

theorem after_pardoned (index : Nat) (step : Step) :
  session.pardoned.after index step.pardoned = (session.after index step).pardoned
  := by
  have hduration : step.pardoned.duration = step.duration := by
    cases step <;> rfl
  rw [after, after, perform_pardoned, hduration]
  have hserver : (session.perform index step).1.pardoned.server
      = (session.perform index step).1.server.pardoned := rfl
  rw [hserver, Server.settle_pardoned, Server.advance_pardoned]
  rfl

theorem runFrom_pardoned (steps : List Step) :
  ∀ (index : Nat) (session : Session),
    session.pardoned.runFrom index (steps.map (·.pardoned))
      = (session.runFrom index steps).pardoned
  := by
  induction steps with
  | nil =>
    intro index session
    rfl
  | cons step rest ih =>
    intro index session
    rw [List.map_cons, runFrom, runFrom, after_pardoned, ih]

theorem run_pardoned (steps : List Step) :
  session.pardoned.run (steps.map (·.pardoned)) = (session.run steps).pardoned
  := runFrom_pardoned steps 0 session

end Session

end CommandTimelines
