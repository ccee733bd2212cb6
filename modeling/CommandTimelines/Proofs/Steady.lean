import CommandTimelines.Proofs.Operation

/-!
# What stays as it is

Much of the server is left alone by whatever runs do, and by calls and stops: its clock, which
runs there are and what they are to do, which requests stop all timelines. Such a view of the
server is *steady*. `Server.Steady` asks for it only where the server is really changed: where
a fact is written down, a run goes on, takes its turn or is counted, an awaited response goes or
comes, or a stop begins to wait. The lemmas say of each operation that is made up of these that
it leaves every steady view as it is.

A view may also be changed by the work of runs and still be left alone by all that is asked of the
server from outside. It is then *aloof* (`Server.Aloof`). And a view that only tells of the calls of
handlers is changed by nothing else. It is then *detached* from all else (`Server.Detached`); one
that requests and their answers may change as well is *apart* (`Server.Apart`).
-/

namespace CommandTimelines

open Host Script

/-- The timeline of a run, and the actions of its body and of its clean-up. -/
def Run.script (run : Run) : String × List Action × List Action :=
  (run.key, run.body, run.cleanUp)

namespace Server

/-- A view of the server that small changes leave as it is. -/
structure Steady {α : Type} (view : Server → α) : Prop where
  record (s : Server) (fact : Fact) : view (s.record fact) = view s
  updateRun (s : Server) (id : RunId) {f : Run → Run} (hf : ∀ run, (f run).script = run.script) :
    view (s.updateRun id f) = view s
  yieldTurn (s : Server) (id : RunId) : view (s.yieldTurn id) = view s
  updateTimeline (s : Server) (key : String) (f : Timeline → Timeline) :
    view (s.updateTimeline key f) = view s
  awaiting (s : Server) (awaiting : List Awaiting) : view { s with awaiting } = view s
  stopping (s : Server) (ticket : Ticket) (asker : Asker) (id : RunId) :
    view (s.await (.stopping ticket asker id)) = view s

namespace Steady

variable {α : Type} {view : Server → α} (h : Steady view) (s : Server)

include h

/-- What is made of a steady view is steady. -/
theorem map {β : Type} (f : α → β) :
  Steady fun s => f (view s)
  where
  record s fact := congrArg f (h.record s fact)
  updateRun s id _ hf := congrArg f (h.updateRun s id hf)
  yieldTurn s id := congrArg f (h.yieldTurn s id)
  updateTimeline s key g := congrArg f (h.updateTimeline s key g)
  awaiting s awaiting := congrArg f (h.awaiting s awaiting)
  stopping s ticket asker id := congrArg f (h.stopping s ticket asker id)

theorem log (note : Note) :
  view (s.log note) = view s
  := h.record s (.noted note)

theorem claim? {ticket : Ticket} {id : RunId} {s' : Server}
    (hclaim : s.claim? ticket id = some s') :
  view s' = view s
  := by
  obtain ⟨run, -, -, rfl⟩ := exists_of_claim? s hclaim
  rw [h.log, h.record]
  have hupdate := h.updateRun s id (f := fun r => { r with phase := .draining true }) fun _ => rfl
  split
  · rw [h.yieldTurn, hupdate]
  · apply hupdate

theorem stop (ticket : Ticket) (asker : Asker) (file : String) :
  view (s.stop ticket asker file) = view s
  := by
  rw [Server.stop]
  split
  · apply h.record
  · split
    · apply h.record
    · rename_i id s' hclaimed
      obtain ⟨id', -, hclaimed⟩ := Option.bind_eq_some_iff.mp hclaimed
      obtain ⟨s'', hclaim, heq⟩ := Option.map_eq_some_iff.mp hclaimed
      obtain ⟨rfl, rfl⟩ := Prod.mk.inj heq
      rw [h.stopping, h.claim? s hclaim]

theorem call (caller : Option Work) (c : Call) :
  view (s.call caller c) = view s
  := by
  unfold Server.call react
  split
  · apply (h.awaiting _ _).trans (h.record s _)
  · apply (h.stop _ _ _ _).trans (h.record s _)
  · apply h.record

theorem callCommand (caller : Option Work) (c : Command) (invocation : Invocation) :
  view (s.callCommand caller c invocation) = view s
  := by
  unfold Server.callCommand
  simp only
  split
  · rw [h.call, h.log]
  · apply h.call

theorem callEach (invocation : Invocation) (found : List Command) :
  ∀ s : Server, view (s.callEach invocation found).1 = view s
  := by
  induction found with
  | nil =>
    intro s
    rfl
  | cons c rest ih =>
    intro s
    apply (ih _).trans (h.callCommand s none c invocation)

theorem respond? {caller : Option Work} {key : String} {invocation : Invocation} {s' : Server}
    {outcome : Outcome} (hrespond : s.respond? caller key invocation = some (s', outcome)) :
  view s' = view s
  := by
  obtain ⟨⟨a, rest⟩, -, heq⟩ := Option.map_eq_some_iff.mp hrespond
  obtain ⟨rfl, -⟩ := Prod.mk.inj heq
  rw [h.call, h.awaiting]

theorem carryOut (work : Work) :
  view (s.carryOut work) = view s
  := by
  rw [Server.carryOut]
  split
  · rfl
  · apply h.callCommand
  · split
    · apply h.log
    · rename_i s' outcome hrespond
      apply h.respond? s hrespond

theorem setActivity (id : RunId) (activity : Activity) :
  view (s.setActivity id activity) = view s
  := h.updateRun s id fun _ => rfl

theorem conclude (work : Work) (error : Option StepError) :
  view (s.conclude work error) = view s
  := by
  rw [Server.conclude, h.setActivity, h.record]

theorem engage (work : Work) :
  view (s.engage work) = view s
  := by
  rw [Server.engage]
  split
  · apply h.conclude
  · apply h.setActivity
  · rw [h.yieldTurn, h.setActivity]

theorem proceed (id : RunId) (run : Run) :
  view (s.proceed id run) = view s
  := by
  rw [Server.proceed]
  split
  · split
    · rw [claimOwnEnd, turnToCleanUp, h.updateRun, h.log, h.record]
      intro run
      rfl
    · rw [beginBody, h.engage, h.updateRun, h.record, h.log, h.updateTimeline]
      intro run
      rfl
  · rw [leaveBody, turnToCleanUp, h.updateRun]
    · split
      · rfl
      · apply h.log
    · intro run
      rfl
  · split
    · rw [finish, publish, h.record, h.updateRun]
      intro run
      rfl
    · rw [beginCleanUp, h.engage, h.updateRun, h.record]
      intro run
      rfl
  · rfl

theorem work (id : RunId) :
  view (s.work id) = view s
  := by
  rw [Server.work]
  split
  · rfl
  · split
    · apply h.proceed
    · rw [handle, h.yieldTurn, h.carryOut, h.setActivity]
    · unfold takeUp
      simp only
      split
      · apply h.conclude
      · rw [publish, h.record, h.conclude, h.log]
      · rw [h.conclude, h.log]
    · simp only
      split
      · rw [h.conclude, h.log]
      · split
        · apply h.conclude
        · rfl

/-- A request that goes on leaves a view as it is that does not look at the requests. -/
theorem serve (hpending : ∀ (s : Server) pending, view { s with pending } = view s) (i : Nat) :
  view (s.serve i) = view s
  := by
  rw [Server.serve]
  split
  · rfl
  · split
    · rfl
    · simp only
      split
      · rw [answer, h.record, h.log, hpending]
      · rw [answer, h.record, hpending]
      · rw [h.log, hpending]
      · split
        · apply hpending
        · rename_i s' hclaim
          rw [hpending, h.claim? s hclaim]
      · split
        · rw [answer, h.record, hpending]
        · rw [answer, h.record, h.log, hpending]

theorem step (hpending : ∀ (s : Server) pending, view { s with pending } = view s)
    (move : Move) :
  view (s.step move) = view s
  := by
  cases move with
  | work id => apply h.work
  | serve i => apply h.serve s hpending

/-- A start leaves a view as it is that looks neither at the timelines nor at the runs. -/
theorem commit (htimelines : ∀ (s : Server) timelines, view { s with timelines } = view s)
    (hruns : ∀ (s : Server) runs, view { s with runs } = view s) (o : Opening) :
  view (s.commit o).1 = view s
  := by
  have henroll : view (s.enroll o.key) = view s := by
    obtain ⟨timelines, heq⟩ := enroll_eq s o.key
    rw [heq, htimelines]
  rw [Server.commit]
  split
  · rfl
  · simp only
    split
    · rw [decline, h.log, henroll]
    · split
      · rw [decline, h.log, h.log, henroll]
      · rw [launch, publish, h.record, h.log, h.updateTimeline, h.yieldTurn, hruns, h.log, henroll]

end Steady

/-! ### What is asked of the server -/

/-- A view of the server that is left as it is by starts, stops and calls that somebody asks for,
and by the answers. Stops of several runs, and commands that are registered, may change it. -/
structure Aloof {α : Type} (view : Server → α) : Prop where
  log (s : Server) (note : Note) : view (s.log note) = view s
  answer (s : Server) (ticket : Ticket) (reply : Reply) : view (s.answer ticket reply) = view s
  commit (s : Server) (o : Opening) : view (s.commit o).1 = view s
  stop (s : Server) (ticket : Ticket) (asker : Asker) (file : String) :
    view (s.stop ticket asker file) = view s
  finishing (s : Server) (ticket : Ticket) (id : RunId) :
    view (s.await (.finishing ticket id)) = view s
  awaiting (s : Server) (awaiting : List Awaiting) : view { s with awaiting } = view s
  call (s : Server) (c : Call) : view (s.call none c) = view s

theorem Steady.aloof {α : Type} {view : Server → α} (h : Steady view)
    (hcommit : ∀ (s : Server) (o : Opening), view (s.commit o).1 = view s)
    (hfinishing : ∀ (s : Server) (ticket : Ticket) (id : RunId),
      view (s.await (.finishing ticket id)) = view s) :
  Aloof view
  where
  log := h.log
  answer s ticket reply := h.record s (.answered ticket reply)
  commit := hcommit
  stop := h.stop
  finishing := hfinishing
  awaiting := h.awaiting
  call s c := h.call s none c

namespace Aloof

variable {α : Type} {view : Server → α} (h : Aloof view) (s : Server)

include h

theorem start (files : Files) (file : String) (args : List String) :
  view (s.start files file args).1 = view s
  := by
  rw [Server.start]
  split
  · rfl
  · apply h.commit

theorem execute (ticket : Ticket) (files : Files) (actor : Actor) (args : List String) :
  view (s.execute ticket files actor args) = view s
  := by
  unfold Server.execute
  simp only
  split
  · rw [refuse, h.answer, h.log]
  · cases Operator.Request.ofArgs args with
    | start file args => rw [grant, h.answer, h.start]
    | stop file => apply h.stop
    | list => apply h.answer
    | unclear file => apply h.answer

theorem callCommand (c : Command) (invocation : Invocation) :
  view (s.callCommand none c invocation) = view s
  := by
  unfold Server.callCommand
  simp only
  split
  · rw [h.call, h.log]
  · apply h.call

theorem callEach (invocation : Invocation) (found : List Command) :
  ∀ s : Server, view (s.callEach invocation found).1 = view s
  := by
  induction found with
  | nil =>
    intro s
    rfl
  | cons c rest ih =>
    intro s
    apply (ih _).trans (h.callCommand s c invocation)

theorem respond? {key : String} {invocation : Invocation} {s' : Server} {outcome : Outcome}
    (hrespond : s.respond? none key invocation = some (s', outcome)) :
  view s' = view s
  := by
  obtain ⟨⟨a, rest⟩, -, heq⟩ := Option.map_eq_some_iff.mp hrespond
  obtain ⟨rfl, -⟩ := Prod.mk.inj heq
  rw [h.call, h.awaiting]

theorem awaitEnd? {ticket : Ticket} {file : String} {s' : Server}
    (hawait : s.awaitEnd? ticket file = some s') :
  view s' = view s
  := by
  obtain ⟨id, -, rfl⟩ := Option.map_eq_some_iff.mp hawait
  apply h.finishing

end Aloof

/-! ### What has to do with neither handlers nor requests -/

/-- A view of the server that nothing changes but handlers, requests and their answers. -/
structure Apart {α : Type} (view : Server → α) : Prop where
  record (s : Server) {fact : Fact} (hcalled : ∀ caller call, fact ≠ .called caller call)
    (hanswered : ∀ ticket reply, fact ≠ .answered ticket reply) : view (s.record fact) = view s
  runs (s : Server) (runs : List Run) : view { s with runs } = view s
  turns (s : Server) (turns : List RunId) : view { s with turns } = view s
  timelines (s : Server) (timelines : List Timeline) : view { s with timelines } = view s

namespace Apart

variable {α : Type} {view : Server → α} (h : Apart view) (s : Server)

include h

theorem log (note : Note) :
  view (s.log note) = view s
  := h.record s (by simp) (by simp)

theorem publish (id : RunId) (event : Event) :
  view (s.publish id event) = view s
  := h.record s (by simp) (by simp)

theorem updateRun (id : RunId) (f : Run → Run) :
  view (s.updateRun id f) = view s
  := h.runs s _

theorem yieldTurn (id : RunId) :
  view (s.yieldTurn id) = view s
  := h.turns s _

theorem claim? {ticket : Ticket} {id : RunId} {s' : Server}
    (hclaim : s.claim? ticket id = some s') :
  view s' = view s
  := by
  obtain ⟨run, -, -, rfl⟩ := exists_of_claim? s hclaim
  rw [h.log, h.record _ (by simp) (by simp)]
  split
  · rw [h.yieldTurn, h.updateRun]
  · rw [h.updateRun]

theorem setActivity (id : RunId) (activity : Activity) :
  view (s.setActivity id activity) = view s
  := h.updateRun s id _

theorem conclude (work : Work) (error : Option StepError) :
  view (s.conclude work error) = view s
  := by
  rw [Server.conclude, h.setActivity, h.record _ (by simp) (by simp)]

theorem engage (work : Work) :
  view (s.engage work) = view s
  := by
  rw [Server.engage]
  split
  · rw [h.conclude]
  · rw [h.setActivity]
  · rw [h.yieldTurn, h.setActivity]

theorem proceed (id : RunId) (run : Run) :
  view (s.proceed id run) = view s
  := by
  rw [Server.proceed]
  split
  · split
    · rw [claimOwnEnd, turnToCleanUp, h.updateRun, h.log, h.record _ (by simp) (by simp)]
    · rw [beginBody, h.engage, h.updateRun, h.record _ (by simp) (by simp), h.log, updateTimeline,
        h.timelines]
  · rw [leaveBody, turnToCleanUp, h.updateRun]
    split
    · rfl
    · rw [h.log]
  · split
    · rw [finish, h.publish, h.updateRun]
    · rw [beginCleanUp, h.engage, h.updateRun, h.record _ (by simp) (by simp)]
  · rfl

theorem takeUp (id : RunId) (run : Run) (action : Action) (error : Option StepError) :
  view (s.takeUp id run action error) = view s
  := by
  unfold Server.takeUp
  simp only
  split
  · rw [h.conclude]
  · rw [h.publish, h.conclude, h.log]
  · rw [h.conclude, h.log]

end Apart

/-! ### What has to do with no handler -/

/-- A view of the server that nothing changes but calls of handlers, and what these register. -/
structure Detached {α : Type} (view : Server → α) : Prop where
  record (s : Server) {fact : Fact} (h : ∀ caller call, fact ≠ .called caller call) :
    view (s.record fact) = view s
  runs (s : Server) (runs : List Run) : view { s with runs } = view s
  turns (s : Server) (turns : List RunId) : view { s with turns } = view s
  timelines (s : Server) (timelines : List Timeline) : view { s with timelines } = view s
  pending (s : Server) (pending : List Pending) : view { s with pending } = view s

namespace Detached

variable {α : Type} {view : Server → α} (h : Detached view) (s : Server)

include h

theorem apart :
  Apart view
  where
  record s _ hcalled _ := h.record s hcalled
  runs := h.runs
  turns := h.turns
  timelines := h.timelines

theorem log (note : Note) :
  view (s.log note) = view s
  := h.apart.log s note

theorem publish (id : RunId) (event : Event) :
  view (s.publish id event) = view s
  := h.apart.publish s id event

theorem answer (ticket : Ticket) (reply : Reply) :
  view (s.answer ticket reply) = view s
  := h.record s (by simp)

theorem yieldTurn (id : RunId) :
  view (s.yieldTurn id) = view s
  := h.turns s _

theorem claim? {ticket : Ticket} {id : RunId} {s' : Server}
    (hclaim : s.claim? ticket id = some s') :
  view s' = view s
  := h.apart.claim? s hclaim

theorem stop (ticket : Ticket) (asker : Asker) (file : String) :
  view (s.stop ticket asker file) = view s
  := by
  rw [Server.stop]
  split
  · rw [h.answer]
  · split
    · rw [h.answer]
    · rename_i id s' hclaimed
      obtain ⟨id', -, hclaimed⟩ := Option.bind_eq_some_iff.mp hclaimed
      obtain ⟨s'', hclaim, heq⟩ := Option.map_eq_some_iff.mp hclaimed
      obtain ⟨rfl, rfl⟩ := Prod.mk.inj heq
      rw [Server.await, h.pending, h.claim? s hclaim]

theorem awaitEnd? {ticket : Ticket} {file : String} {s' : Server}
    (hawait : s.awaitEnd? ticket file = some s') :
  view s' = view s
  := by
  obtain ⟨id, -, rfl⟩ := Option.map_eq_some_iff.mp hawait
  rw [Server.await, h.pending]

theorem serve (i : Nat) :
  view (s.serve i) = view s
  := by
  rw [Server.serve]
  split
  · rfl
  · split
    · rfl
    · simp only
      split
      · rw [h.answer, h.log, h.pending]
      · rw [h.answer, h.pending]
      · rw [h.log, h.pending]
      · split
        · rw [h.pending]
        · rename_i s' hclaim
          rw [h.pending, h.claim? s hclaim]
      · split
        · rw [h.answer, h.pending]
        · rw [h.answer, h.log, h.pending]

theorem commit (o : Opening) :
  view (s.commit o).1 = view s
  := by
  have henroll : view (s.enroll o.key) = view s := by
    obtain ⟨timelines, heq⟩ := enroll_eq s o.key
    rw [heq, h.timelines]
  rw [Server.commit]
  split
  · rfl
  · simp only
    split
    · rw [decline, h.log, henroll]
    · split
      · rw [decline, h.log, h.log, henroll]
      · rw [launch, h.publish, h.log, updateTimeline, h.timelines, h.yieldTurn, h.runs, h.log,
          henroll]

theorem start (files : Files) (file : String) (args : List String) :
  view (s.start files file args).1 = view s
  := by
  rw [Server.start]
  split
  · rfl
  · rw [h.commit]

theorem execute (ticket : Ticket) (files : Files) (actor : Actor) (args : List String) :
  view (s.execute ticket files actor args) = view s
  := by
  unfold Server.execute
  simp only
  split
  · rw [refuse, h.answer, h.log]
  · cases Operator.Request.ofArgs args with
    | start file args => rw [grant, h.answer, h.start]
    | stop file => rw [grant, h.stop]
    | list => rw [grant, h.answer]
    | unclear file => rw [grant, h.answer]

theorem setActivity (id : RunId) (activity : Activity) :
  view (s.setActivity id activity) = view s
  := h.apart.setActivity s id activity

theorem conclude (work : Work) (error : Option StepError) :
  view (s.conclude work error) = view s
  := h.apart.conclude s work error

theorem proceed (id : RunId) (run : Run) :
  view (s.proceed id run) = view s
  := h.apart.proceed s id run

theorem takeUp (id : RunId) (run : Run) (action : Action) (error : Option StepError) :
  view (s.takeUp id run action error) = view s
  := h.apart.takeUp s id run action error

end Detached

end Server

end CommandTimelines
