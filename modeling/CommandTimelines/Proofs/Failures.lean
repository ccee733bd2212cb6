import CommandTimelines.Proofs.Body
import CommandTimelines.Proofs.Pardon

/-!
# Reports of failures

A handler that is called by an action of the body of a run may fail or panic. Then the failure is
published, once and when the action is over, with the line of the action and a text that says what
failed; and the run goes on. A wait, however it ends, and a response that nobody awaits are no
failures.

* `Run.Logged.failures_eq`: the failures that are published are those of the executions, in order.
* `Server.executed_congr`: the actions that begin do not depend on failures.
* `Session.Unscripted.reports_failures` puts it together, for runs of any actions whatsoever.
-/

namespace CommandTimelines

open Host Script

/-! ### What is reported -/

/-- What is told of a failure: the name of the timeline, the line, and a text. -/
structure Failure where
  name : String
  line : Nat
  text : String
deriving DecidableEq, Repr

/-- What is said of an action whose handler came to an outcome, if it failed. -/
def Script.Action.complaint? (action : Action) : Outcome → Option String
  | .done => none
  | .failed chain =>
    match action with
    | .delay _ _ => none
    | .invoke _ name _ _ _ _ => some ("/" ++ name ++ " failed: " ++ chainMessage chain)
    | .deliver _ key _ _ => some ("response '" ++ key ++ "' failed: " ++ chainMessage chain)
  | .panicked message => some ("step panicked: " ++ panicMessage message)

/-- What is to be told of an execution in a run with a key: that of an action of the body whose
handler was called and failed. -/
def Execution.failure? (key : String) (x : Execution) : Option Failure :=
  if x.work.ofCleanUp then none
  else (x.call.bind fun call => x.work.action.complaint? call.outcome).map
    (Failure.mk key x.work.action.line)

/-- The failure that a fact publishes. -/
def Fact.failure? : Fact → Option Failure
  | .published _ (.failed name line error) => some ⟨name, line, error.message⟩
  | _ => none

/-- The failure of an action of the body that was over in a run with a key. -/
def Fact.lapse? (key : String) : Fact → Option Failure
  | .over work error =>
    if work.ofCleanUp then none
    else (error.map (·.message)).map (Failure.mk key work.action.line)
  | _ => none

/-- The failures that entries tell were published, earliest first. -/
def Entry.failures (entries : List Entry) : List Failure := entries.filterMap (·.fact.failure?)

/-! ### What is published is what went wrong -/

/-- How an action fails is said as the outcome of its call demands. -/
theorem Work.Makes.message_eq {work : Work} {call : Option Call} {error : Option StepError}
    (h : work.Makes call error) :
  error.map (·.message) = call.bind fun call => work.action.complaint? call.outcome
  := by
  cases h with
  | delay h => rfl
  | @invoke line name raw c silent args h =>
    simp only [h, Call.outcome, Target.behaviour, Option.bind_some]
    cases c.behaviour.outcome <;> rfl
  | idle h => rfl
  | @deliver line key raw args a h ha =>
    simp only [h, Call.outcome, Target.behaviour, Option.bind_some]
    cases a.behaviour.outcome <;> rfl

/-- An action that begins has not failed. -/
theorem Work.filterMap_lapse?_atOnce (work : Work) (key : String) :
  (Fact.began work :: work.atOnce).filterMap (·.lapse? key) = []
  := by
  rw [List.filterMap_eq_nil_iff]
  intro fact hfact
  rcases List.mem_cons.mp hfact with rfl | hfact
  · rfl
  · rw [Work.eq_of_mem_atOnce hfact]
    simp [Fact.lapse?]

theorem Work.filterMap_failure?_atOnce (work : Work) :
  (Fact.began work :: work.atOnce).filterMap (·.failure?) = []
  := by
  rw [List.filterMap_eq_nil_iff]
  intro fact hfact
  rcases List.mem_cons.mp hfact with rfl | hfact
  · rfl
  · rw [Work.eq_of_mem_atOnce hfact]
    rfl

namespace Run

variable {id : RunId} {run run' : Run} {history : List Entry}

/-- A step publishes a failure if and only if by it an action of the body is over that failed. -/
theorem Next.filterMap_failure? {now : Nat} {facts : List Fact} (h : Next id now run facts run')
    (hcounted : run.Counted) :
  facts.filterMap (·.failure?) = facts.filterMap (·.lapse? run.key)
  := by
  cases h with
  | beginBody hphase hready hnext =>
    rw [Work.filterMap_failure?_atOnce, Work.filterMap_lapse?_atOnce]
  | beginCleanUp hphase hready hnext =>
    rw [Work.filterMap_failure?_atOnce, Work.filterMap_lapse?_atOnce]
  | @call action call error hcalling hmakes => cases call <;> rfl
  | @takeUp action error hreturned =>
    cases hphase : run.phase with
    | draining stopping =>
      rw [failure_of_draining hphase]
      cases error <;> simp [Fact.failure?, Fact.lapse?, isCleaning, hphase]
    | cleaning cancelled =>
      rw [failure_of_not_draining (by simp [hphase])]
      simp [Fact.failure?, Fact.lapse?, isCleaning, hphase]
    | ended cancelled =>
      -- A run that has ended has nothing to take up.
      have hready := (hcounted.ended cancelled hphase).2
      rw [hready] at hreturned
      cases hreturned
  | wake hwaiting hdue => simp [Fact.failure?, Fact.lapse?]
  | _ => rfl

/-- What is published in a run is what went wrong in its body. -/
theorem Lived.failures_eq (h : Lived id run history) :
  Entry.failures history = history.filterMap (·.fact.lapse? run.key)
  := by
  induction h with
  | launched key body cleanUp time => rfl
  | @next run run' history now facts hlived hnext htime ih =>
    rw [Entry.failures, List.filterMap_append, List.filterMap_append, hnext.key_eq.1, ← ih,
      List.filterMap_map, List.filterMap_map]
    congr 1
    exact hnext.filterMap_failure? hlived.counted

end Run

/-! ### What went wrong is what calls came to -/

/-- What does not look at entries apart from executions sees them only. -/
theorem Entry.filterMap_lapse?_eq (entries : List Entry) (key : String) :
  entries.filterMap (·.fact.lapse? key)
    = (entries.filter (·.isOfExecution)).filterMap (·.fact.lapse? key)
  := by
  rw [List.filterMap_filter]
  congr 1
  funext entry
  obtain ⟨time, fact⟩ := entry
  cases fact with
  | called caller call => cases caller <;> rfl
  | _ => rfl

theorem Execution.filterMap_lapse?_entries {x : Execution} (h : x.IsProper) (key : String) :
  x.entries.filterMap (·.fact.lapse? key) = (x.failure? key).toList
  := by
  have hcalls : (x.call.toList.map fun c => Entry.mk x.time (.called (some x.work) c)).filterMap
      (·.fact.lapse? key) = [] := by
    cases x.call <;> rfl
  rw [entries, List.filterMap_append, List.filterMap_cons_none rfl, hcalls, failure?,
    ← h.makes.message_eq]
  by_cases hcleanUp : x.work.ofCleanUp
  · simp [Fact.lapse?, hcleanUp]
  · cases x.error <;> simp [Fact.lapse?, hcleanUp]

theorem Execution.filterMap_lapse?_flatMap {done : List Execution} (h : ∀ x ∈ done, x.IsProper)
    (key : String) :
  (done.flatMap (·.entries)).filterMap (·.fact.lapse? key) = done.filterMap (·.failure? key)
  := by
  induction done with
  | nil => rfl
  | cons x done ih =>
    rw [List.flatMap_cons, List.filterMap_append,
      filterMap_lapse?_entries (h x List.mem_cons_self),
      ih fun y hy => h y (List.mem_cons_of_mem x hy), List.filterMap_cons]
    cases x.failure? key <;> rfl

/-- An action at hand is not over. -/
theorem Activity.Written.filterMap_lapse? {id : RunId} {ofCleanUp : Bool} {activity : Activity}
    {entries : List Entry} (h : activity.Written id ofCleanUp entries) (key : String) :
  entries.filterMap (·.fact.lapse? key) = []
  := by
  cases h with
  | @returned action call error start time hno hmakes => cases call <;> rfl
  | _ => rfl

namespace Run

variable {id : RunId} {run : Run} {history : List Entry}

/-- The failures that are published in a run are those of its executions, one for each and in
their order. -/
theorem Logged.failures_eq {done : List Execution} {atHand : List Entry}
    (h : run.Logged id history done atHand) (hlived : Lived id run history) :
  Entry.failures history = done.filterMap (·.failure? run.key)
  := by
  rw [hlived.failures_eq, Entry.filterMap_lapse?_eq, h.filter_eq, List.filterMap_append,
    Execution.filterMap_lapse?_flatMap h.isProper, h.written.filterMap_lapse?, List.append_nil]

/-- A run that has ended, and that nobody has stopped, has executed all its actions. -/
theorem Logged.works_eq_of_ended {done : List Execution} {atHand : List Entry}
    (h : run.Logged id history done atHand) (hcounted : run.Counted)
    (hphase : run.phase = .ended false) :
  done.map (·.work) = run.body.map (Work.mk id false) ++ run.cleanUp.map (Work.mk id true)
  := by
  obtain ⟨hcleaned, hready⟩ := hcounted.ended false hphase
  have hbegun := hcounted.begun_eq (.inr hphase)
  have hworks := h.works_eq
  simpa [Run.atHand, hready, Activity.action?, works, hbegun, hcleaned] using hworks

end Run

/-! ### Responses that nobody awaits -/

/-- The delivery of a response that nobody awaits comes to nothing. -/
theorem Server.work_of_unawaited {s : Server} {id : RunId} {run : Run} {line : Nat}
    {key raw : String} {args : List String} (hrun : s.runs[id]? = some run)
    (hcalling : run.activity = .calling (.deliver line key raw args))
    (hnone : ∀ a ∈ s.awaiting, a.answersTo key = false) :
  (s.work id).runs[id]?
    = some { run with activity := .returned (.deliver line key raw args) none } ∧
  (s.work id).historyOf id = s.historyOf id
  := by
  have htake : Awaiting.take s.awaiting key = none := by
    simpa [Awaiting.take] using hnone
  have hfailure : s.failure? ⟨id, run.isCleaning, .deliver line key raw args⟩ = none := by
    simp [failure?, htake]
  have hrespond : (s.setActivity id (.returned (.deliver line key raw args) none)).respond?
      (some ⟨id, run.isCleaning, .deliver line key raw args⟩) key { raw, args } = none := by
    simp [respond?, setActivity, updateRun, htake]
  have hwork : s.work id = ((s.setActivity id (.returned (.deliver line key raw args) none)).log
      (.unawaited key)).yieldTurn id := by
    simp only [work, hrun, hcalling, handle, hfailure, carryOut, hrespond]
  rw [hwork]
  constructor
  · simp [log, record, yieldTurn, setActivity, updateRun, hrun]
  · simp [historyOf, history, log, record, yieldTurn, setActivity, updateRun, Entry.isOf,
      Fact.run?]

/-! ### Failures make no difference -/

namespace Server

variable (s : Server)

/-- The actions that have begun, earliest first, each with the time and without what its handler
fails with. -/
def executed : List (Nat × Work) :=
  s.history.filterMap fun entry => entry.began?.map fun work => (entry.time, work.pardoned)

theorem executed_eq :
  s.executed = s.pardoned.history.filterMap fun entry => entry.began?.map (entry.time, ·)
  := by
  have hhistory : s.pardoned.history = s.history.filterMap (·.pardoned?) :=
    List.filterMap_reverse.symm
  rw [hhistory, List.filterMap_filterMap, executed]
  congr 1
  funext entry
  obtain ⟨time, fact⟩ := entry
  cases fact with
  | published id event => cases event <;> rfl
  | noted note => cases note <;> rfl
  | _ => rfl

/-- The actions that have begun do not depend on failures. -/
theorem executed_congr {s t : Server} (h : s.pardoned = t.pardoned) :
  s.executed = t.executed
  := by
  rw [executed_eq, executed_eq, h]

end Server

/-! ### Runs of any actions -/

namespace Session

/-- The sessions that come about if besides what may happen in any session runs of any actions
whatsoever may be set up. -/
inductive Unscripted : Session → Prop
  | new (files : Files) (settings : Settings) (commands : List Command)
      (awaiting : List Awaiting) :
      Unscripted { files, server := { settings, commands, awaiting } }
  | happen {session : Session} (h : Unscripted session) (x : Happening) :
      Unscripted (session.happen x)
  | launch {session : Session} (h : Unscripted session) (o : Opening) (body cleanUp : List Action) :
      Unscripted (session.withServer (session.server.launch o body cleanUp))

variable {session : Session}

theorem Unscripted.happens (h : Unscripted session) (xs : List Happening) :
  Unscripted (xs.foldl Session.happen session)
  := by
  induction xs generalizing session with
  | nil => apply h
  | cons x rest ih => apply ih (h.happen x)

/-- Whatever its actions are, the history of a run is one that it can have. -/
theorem Unscripted.historic (h : Unscripted session) :
  session.server.Historic
  := by
  induction h with
  | new files settings commands awaiting => apply Server.Historic.new
  | @happen session _ x ih => apply ih.changes (session.happen_changes x)
  | @launch session _ o body cleanUp ih =>
    have hlog := ih.change (.record (.noted (.starting o.key body.length o.args.length)) rfl rfl)
    exact hlog.launch _ _ o.key body cleanUp

/-- Whatever the actions of runs are and whatever their handlers come to: the failures that are
published in a run are those of the actions of its body whose handlers failed or panicked, one for
each and in their order, with its line and a text for its kind; and a run that ends unstopped has
executed all its actions. A response that nobody awaits comes to nothing. Which actions begin, and
when, is the same in sessions that differ only in what handlers fail with, if at all. -/
theorem Unscripted.reports_failures (h : Unscripted session) :
  (∀ id run, session.server.runs[id]? = some run →
    ∃ done atHand, run.Logged id (session.server.historyOf id) done atHand ∧
      Entry.failures (session.server.historyOf id) = done.filterMap (·.failure? run.key) ∧
      (run.phase = .ended false → done.map (·.work)
        = run.body.map (Work.mk id false) ++ run.cleanUp.map (Work.mk id true))) ∧
  (∀ id run line key raw args, session.server.runs[id]? = some run →
    run.activity = .calling (.deliver line key raw args) →
    (∀ a ∈ session.server.awaiting, a.answersTo key = false) →
    (session.server.work id).runs[id]?
      = some { run with activity := .returned (.deliver line key raw args) none } ∧
    (session.server.work id).historyOf id = session.server.historyOf id) ∧
  (∀ other : Session, other.pardoned = session.pardoned →
    (∀ steps others : List Step, others.map (·.pardoned) = steps.map (·.pardoned) →
      (other.run others).server.executed = (session.run steps).server.executed) ∧
    (∀ xs others : List Happening, others.map (·.pardoned) = xs.map (·.pardoned) →
      (others.foldl Session.happen other).server.executed
        = (xs.foldl Session.happen session).server.executed))
  := by
  refine ⟨?_, ?_, ?_⟩
  · intro id run hrun
    have hlived := h.historic.lived id run hrun
    obtain ⟨done, atHand, hlogged⟩ := hlived.logged
    use done, atHand, hlogged, hlogged.failures_eq hlived
    apply hlogged.works_eq_of_ended hlived.counted
  · intro id run line key raw args hrun hcalling hnone
    apply Server.work_of_unawaited hrun hcalling hnone
  · intro other hother
    constructor
    · intro steps others hothers
      apply Server.executed_congr
      have hrun := run_pardoned other others
      rw [hother, hothers, run_pardoned] at hrun
      exact congrArg Session.server hrun.symm
    · intro xs others hothers
      apply Server.executed_congr
      have hhappens := happens_pardoned others other
      rw [hother, hothers, happens_pardoned] at hhappens
      exact congrArg Session.server hhappens.symm

/-- Of a command that fails, one that panics, a response that nobody awaits, a wait and a command
that succeeds, all are executed, the first two failures are published, and it all begins as if
there were no failures. -/
theorem Unscripted.reports_failures_of_show :
  let body : List Action :=
    [.invoke 1 "boom" { given := ["boom"], behaviour := .fail "bad" ["worse"] } "boom" false [],
      .invoke 2 "crash" { given := ["crash"], behaviour := .panic "oh" } "crash" false [],
      .deliver 3 "who" "who" [], .delay 4 5,
      .invoke 5 "ok" { given := ["ok"] } "ok" false []]
  let launched (body : List Action) : Session :=
    ⟨{}, Server.launch {} ⟨"show", "", []⟩ body []⟩
  let xs : List Happening :=
    List.replicate 10 (.move (.work 0)) ++ .pass 5 :: List.replicate 6 (.move (.work 0))
  let session := xs.foldl Session.happen (launched body)
  let other := xs.foldl Session.happen (launched (body.map (·.pardoned)))
  (∃ done : List Execution, done.map (·.work) = body.map (Work.mk 0 false) ∧
    done.filterMap (·.failure? "show")
      = [⟨"show", 1, "/boom failed: worse: bad"⟩,
        ⟨"show", 2, "step panicked: task # panicked with message \"oh\""⟩]) ∧
  other.server.executed = session.server.executed
  := by
  intro body launched xs session other
  have hlaunched : (launched body).Unscripted := .launch (.new {} {} [] []) _ _ _
  constructor
  · obtain ⟨hruns, -⟩ := Unscripted.reports_failures (hlaunched.happens xs)
    have hrun : session.server.runs[0]? = some ⟨"show", body, [], 5, 0, .ended false, .ready⟩ := by
      decide +kernel
    obtain ⟨done, atHand, -, hfailures, hworks⟩ := hruns 0 _ hrun
    use done
    constructor
    · simpa using hworks rfl
    · rw [← hfailures]
      decide +kernel
  · obtain ⟨-, -, halike⟩ := Unscripted.reports_failures hlaunched
    apply (halike (launched (body.map (·.pardoned))) (by decide +kernel)).2 xs xs rfl

end Session

end CommandTimelines
