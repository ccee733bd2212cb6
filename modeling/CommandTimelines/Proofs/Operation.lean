import CommandTimelines.Proofs.Timeline
import Mathlib.Data.List.Basic

/-!
# Operations as changes

Every operation of the server is a series of changes: an operation that looks at several
things at once, such as a stop or a call of a handler that stops a timeline, is taken apart
here once and for all.
-/

namespace CommandTimelines.Server

open Host Script Operator

variable (s : Server)

/-! ### Parts of the server -/

/-- Changing a run that there is means putting the changed one in its place. -/
theorem updateRun_eq {id : RunId} {run : Run} (h : s.runs[id]? = some run) (f : Run → Run) :
  s.updateRun id f = { s with runs := s.runs.set id (f run) }
  := by
  simp [updateRun, List.modify_eq_set_getElem?, h]

/-- A timeline that has begun no more actions stays as it is. -/
@[simp]
theorem timelinesWith_zero (key : String) :
  s.timelinesWith key 0 = s.timelines
  := by
  simp [timelinesWith]

/-- A run that is changed and recorded without a change of the requests, as one change. -/
theorem Change.own {id : RunId} {run run' : Run} {facts : List Fact}
    (hrun : s.runs[id]? = some run) (hnext : Run.Next id s.clock run facts run')
    (hown : ∀ ticket, .claimed id (some ticket) ∉ facts) :
  s.Change { s with
    runs := s.runs.set id run'
    timelines := s.timelinesWith run.key (run'.begun - run.begun)
    journal := s.journalWith facts }
  := .work hrun hnext (.own hown)

/-! ### Small operations -/

theorem log_changes (note : Note) :
  Changes s (s.log note)
  := .single (.record (.noted note) rfl rfl)

/-- Yielding takes no run's turn away. -/
theorem subset_yieldTurn (id : RunId) :
  s.turns ⊆ (s.yieldTurn id).turns
  := fun other h => (s.mem_turns_yieldTurn id other).mpr (.inl h)

theorem yieldTurn_changes (id : RunId) :
  Changes s (s.yieldTurn id)
  := .single (.aside s.commands s.awaiting (subset_yieldTurn s id) (Nat.le_refl _))

theorem setClock_changes {time : Nat} (h : s.clock ≤ time) :
  Changes s (s.setClock time)
  := .single (.aside s.commands s.awaiting (List.Subset.refl _) h)

theorem register_changes (c : Command) :
  Changes s (s.register c)
  := .single (.aside _ s.awaiting (List.Subset.refl _) (Nat.le_refl _))

theorem expect_changes (a : Awaiting) :
  Changes s (s.expect a)
  := .single (.aside s.commands _ (List.Subset.refl _) (Nat.le_refl _))

/-- An answer that tells of no stop that succeeded. -/
theorem answer_changes (ticket : Ticket) {reply : Reply} (h : reply.stops = 0) :
  Changes s (s.answer ticket reply)
  := .single (.record (.answered ticket reply) rfl h)

/-- What an operator is told of a start does not read like a stop. -/
@[simp]
theorem stops_startFeedback (file : String) (error : Option TimelineError) :
  Reply.stops (.feedback (startFeedback file error)) = 0
  := by
  cases error with
  | some error => rfl
  | none =>
    have hstart : " started.".toList <:+ (file ++ " started.").toList := by
      simp only [String.toList_append]
      apply List.suffix_append
    have hnot : ¬ " was stopped.".toList <:+ (file ++ " started.").toList := by
      intro hstop
      have h := List.suffix_of_suffix_length_le hstart hstop (by decide)
      revert h
      decide
    simp only [startFeedback, Reply.stops, if_neg hnot]

/-- A stop that succeeded is one stop, whoever asked for it. -/
@[simp]
theorem stops_reply_none (asker : Asker) :
  (asker.reply none).stops = 1
  := by
  cases asker with
  | program => rfl
  | operator file =>
    have hstop : " was stopped.".toList <:+ (file ++ " was stopped.").toList := by
      simp only [String.toList_append]
      apply List.suffix_append
    simp only [Asker.reply, stopFeedback, Reply.stops, if_pos hstop]

/-- A stop that failed is no stop. -/
@[simp]
theorem stops_reply_some (asker : Asker) (error : TimelineError) :
  (asker.reply (some error)).stops = 0
  := by
  cases asker <;> rfl

/-! ### Stops -/

/-- A stop gets the end of a run only if its body is drained and no stop has claimed it. -/
theorem exists_of_claim? {ticket : Ticket} {id : RunId} {s' : Server}
    (h : s.claim? ticket id = some s') :
  ∃ run, s.runs[id]? = some run ∧ run.phase = .draining false ∧
    s' = (((if run.isWaiting then
        (s.updateRun id fun r => { r with phase := .draining true }).yieldTurn id
      else s.updateRun id fun r => { r with phase := .draining true }).record
        (.claimed id (some ticket))).log (.stopping run.key))
  := by
  rw [claim?] at h
  split at h
  · cases h
  · rename_i run hrun
    split at h
    · rename_i hphase
      use run, hrun, hphase, (Option.some.inj h).symm
    · cases h

/-- A stop that gets the end of a run has still to begin to wait. -/
theorem pending_claim? {ticket : Ticket} {id : RunId} {s' : Server}
    (h : s.claim? ticket id = some s') :
  s'.pending = s.pending
  := by
  obtain ⟨run, -, -, rfl⟩ := exists_of_claim? s h
  split <;> rfl

/-- The end of a run is refused to a stop if there is no such run, or if its body is over or
another stop has claimed its end. -/
theorem claim?_eq_none_iff {ticket : Ticket} {id : RunId} :
  s.claim? ticket id = none ↔
    ∀ run, s.runs[id]? = some run → run.phase ≠ .draining false
  := by
  rw [claim?]
  cases hrun : s.runs[id]? with
  | none => simp
  | some run => by_cases hphase : run.phase = .draining false <;> simp [hphase]

/-- A stop that has claimed the end of a run, together with what the requests become. -/
theorem claim?_changes {ticket : Ticket} {id : RunId} {s' : Server}
    (h : s.claim? ticket id = some s') {pending : List Pending}
    (hfollows : Follows id s.pending [.claimed id (some ticket)] pending) :
  Changes s { s' with pending }
  := by
  obtain ⟨run, hrun, hphase, rfl⟩ := exists_of_claim? s h
  have hwork := Change.work hrun (.stop ticket hphase) hfollows
  rw [Nat.sub_self, timelinesWith_zero] at hwork
  rw [updateRun_eq s hrun]
  apply Relation.ReflTransGen.head hwork
  split
  · apply Relation.ReflTransGen.trans (yieldTurn_changes _ id)
    apply log_changes _ (.stopping run.key)
  · apply log_changes _ (.stopping run.key)

theorem stop_changes (ticket : Ticket) (asker : Asker) (file : String) :
  Changes s (s.stop ticket asker file)
  := by
  rw [stop]
  split
  · apply answer_changes
    simp
  · split
    · apply answer_changes
      simp
    · rename_i id s' h
      obtain ⟨id', -, h⟩ := Option.bind_eq_some_iff.mp h
      obtain ⟨s'', hclaim, heq⟩ := Option.map_eq_some_iff.mp h
      obtain ⟨rfl, rfl⟩ := Prod.mk.inj heq
      simp only [await, pending_claim? s hclaim]
      apply claim?_changes s hclaim (.stop ticket asker)

theorem stopEach_changes (ticket : Ticket) (ids : List RunId) :
  Changes s (s.stopEach ticket ids)
  := .single (.serve (.stoppingAll ticket ids))

theorem awaitEnd?_changes {ticket : Ticket} {file : String} {s' : Server}
    (h : s.awaitEnd? ticket file = some s') :
  Changes s s'
  := by
  obtain ⟨id, hid, rfl⟩ := Option.map_eq_some_iff.mp h
  obtain ⟨key, -, hcurrent⟩ := Option.bind_eq_some_iff.mp hid
  exact .single (.serve (.finishing ticket hcurrent))

theorem serve_changes (i : Nat) :
  Changes s (s.serve i)
  := by
  rw [serve]
  split
  · exact .refl
  · rename_i p hp
    by_cases hdue : s.isDue p
    · simp only [hdue, Bool.not_true, Bool.false_eq_true, if_false]
      split
      · rename_i ticket asker id
        -- The note that the run was stopped comes before the answer.
        apply Relation.ReflTransGen.head (.record (.noted (.stopped (s.runName id))) rfl rfl)
        have hserved : (s.log (.stopped (s.runName id))).Served _ _ := .stopped hp hdue
        exact .single (.serve hserved)
      · exact .single (.serve (.ended hp hdue))
      · rename_i ticket id rest count
        apply Relation.ReflTransGen.head (.serve (.counted hp hdue))
        apply log_changes _ (.stopped (s.runName id))
      · rename_i ticket id rest count
        split
        · rename_i hclaim
          exact .single (.serve (.skip hp hclaim))
        · rename_i s' hclaim
          rw [pending_claim? s hclaim]
          apply claim?_changes s hclaim (.stopNext hp)
      · rename_i ticket count
        split
        · exact .single (.serve (.stoppedAll hp))
        · apply Relation.ReflTransGen.head (.record (.noted (.stoppedAll count)) rfl rfl)
          have hserved : (s.log (.stoppedAll count)).Served _ _ := .stoppedAll hp
          exact .single (.serve hserved)
    · simp only [hdue, Bool.not_false, if_true]
      exact .refl

/-! ### Calls -/

theorem react_changes (invocation : Invocation) (behaviour : Behaviour) :
  Changes s (s.react invocation behaviour)
  := by
  unfold react
  split
  · apply expect_changes s _
  · apply stop_changes s _ _ _
  · exact .refl

/-- A call that no run makes. -/
theorem call_changes (c : Call) :
  Changes s (s.call none c)
  := by
  apply Relation.ReflTransGen.head (.record (.called none c) rfl rfl)
  apply react_changes _ _ _

theorem callCommand_changes (c : Command) (invocation : Invocation) :
  Changes s (s.callCommand none c invocation)
  := by
  rw [callCommand]
  split
  · apply Relation.ReflTransGen.trans (log_changes s _)
    apply call_changes _ _
  · apply call_changes s _

theorem callEach_changes (invocation : Invocation) (found : List Command) :
  ∀ s : Server, Changes s (s.callEach invocation found).1
  := by
  induction found with
  | nil =>
    intro s
    exact .refl
  | cons c rest ih =>
    intro s
    apply (callCommand_changes s c invocation).trans (ih _)

/-- A response that was awaited is answered to. -/
theorem answersTo_of_take {awaiting rest : List Awaiting} {key : String} {a : Awaiting}
    (h : Awaiting.take awaiting key = some (a, rest)) :
  a.answersTo key
  := by
  obtain ⟨b, hfind, heq⟩ := Option.map_eq_some_iff.mp h
  obtain ⟨rfl, -⟩ := Prod.mk.inj heq
  simpa using List.find?_some hfind

theorem respond?_changes {key : String} {invocation : Invocation} {s' : Server}
    {outcome : Outcome} (h : s.respond? none key invocation = some (s', outcome)) :
  Changes s s'
  := by
  obtain ⟨⟨a, rest⟩, -, heq⟩ := Option.map_eq_some_iff.mp h
  obtain ⟨rfl, -⟩ := Prod.mk.inj heq
  apply Relation.ReflTransGen.head (.aside s.commands rest (List.Subset.refl _) (Nat.le_refl _))
  apply call_changes _ _

/-! ### The work of a run -/

/-- A run that has called the handler of its action, before the handler does anything. -/
theorem setActivity_change {id : RunId} {run : Run} {action : Action} {call : Option Call}
    {error : Option StepError} (hrun : s.runs[id]? = some run)
    (hcalling : run.activity = .calling action)
    (hmakes : Work.Makes ⟨id, run.isCleaning, action⟩ call error) :
  s.Change { s.setActivity id (.returned action error) with
    journal := s.journalWith (call.toList.map (.called (some ⟨id, run.isCleaning, action⟩))) }
  := by
  have h := Change.own s hrun (.call hcalling hmakes) (by cases call <;> simp)
  rw [Nat.sub_self, timelinesWith_zero] at h
  rw [setActivity, updateRun_eq s hrun]
  apply h

theorem handle_changes {id : RunId} {run : Run} {action : Action}
    (hrun : s.runs[id]? = some run) (hcalling : run.activity = .calling action) :
  Changes s (s.handle id run action)
  := by
  rw [handle]
  apply Relation.ReflTransGen.trans _ (yieldTurn_changes _ id)
  rw [carryOut, failure?]
  cases action with
  | delay line milliseconds =>
    exact .single (setActivity_change s hrun hcalling (.delay rfl))
  | invoke line name c raw silent args =>
    apply Relation.ReflTransGen.head (setActivity_change s hrun hcalling (.invoke rfl))
    simp only [callCommand, Bool.and_false, Bool.false_eq_true, if_false]
    apply react_changes _ _ _
  | deliver line key raw args =>
    simp only [respond?]
    cases htake : Awaiting.take s.awaiting key with
    | none =>
      have hidle := setActivity_change s hrun hcalling (.idle rfl)
      apply Relation.ReflTransGen.head hidle
      simp only [Option.bind_none, setActivity, updateRun, htake, Option.map_none]
      apply log_changes _ (.unawaited key)
    | some taken =>
      obtain ⟨a, rest⟩ := taken
      have hcall := setActivity_change s hrun hcalling
        (.deliver rfl (answersTo_of_take htake))
      apply Relation.ReflTransGen.head hcall
      simp only [Option.bind_some, setActivity, updateRun, htake, Option.map_some]
      apply Relation.ReflTransGen.head
        (.aside s.commands rest (List.Subset.refl _) (Nat.le_refl _))
      apply react_changes _ _ _

/-- A run that is over with an action at once, or is doing something for it. -/
theorem conclude_eq (work : Work) {run : Run} (hrun : s.runs[work.run]? = some run)
    (error : Option StepError) :
  s.conclude work error = { s with
    runs := s.runs.set work.run { run with activity := .ready }
    journal := s.journalWith [.over work error] }
  := updateRun_eq (s.record (.over work error)) hrun _

/-- A run that has begun an action, and what it is doing then. -/
theorem engage_eq {work : Work} {run : Run} (hrun : s.runs[work.run]? = some run) :
  ∃ turns, s.turns ⊆ turns ∧ s.engage work = { s with
    runs := s.runs.set work.run { run with activity := .of s.clock work.action }
    turns
    journal := s.journalWith work.atOnce }
  := by
  obtain ⟨id, ofCleanUp, action⟩ := work
  have hset := fun activity =>
    updateRun_eq s hrun fun r => { r with activity }
  cases action with
  | delay line milliseconds =>
    use s.turns, List.Subset.refl _
    cases milliseconds with
    | zero => exact conclude_eq s _ hrun none
    | succ n => exact hset _
  | invoke line name c raw silent args =>
    use (s.yieldTurn id).turns, subset_yieldTurn s id
    apply congrArg (·.yieldTurn id) (hset _)
  | deliver line key raw args =>
    use (s.yieldTurn id).turns, subset_yieldTurn s id
    apply congrArg (·.yieldTurn id) (hset _)

/-- A run that is changed as it begins an action. -/
theorem updateRun_engage_eq (work : Work) {run : Run} (hrun : s.runs[work.run]? = some run)
    (f : Run → Run) :
  ∃ turns, s.turns ⊆ turns ∧ (s.updateRun work.run f).engage work = { s with
    runs := s.runs.set work.run { f run with activity := .of s.clock work.action }
    turns
    journal := s.journalWith work.atOnce }
  := by
  have hlt : work.run < s.runs.length := (List.getElem?_eq_some_iff.mp hrun).1
  rw [updateRun_eq s hrun]
  have hrun' : (s.runs.set work.run (f run))[work.run]? = some (f run) := by
    simp [hlt]
  obtain ⟨turns, hturns, h⟩ := engage_eq { s with runs := s.runs.set work.run (f run) } hrun'
  use turns, hturns
  rw [h, List.set_set]
  rfl

/-- Beginning an action claims no end. -/
theorem claimed_not_mem_began (work : Work) (id : RunId) (ticket : Ticket) :
  .claimed id (some ticket) ∉ Fact.began work :: work.atOnce
  := by
  intro h
  rcases List.mem_cons.mp h with h | h
  · cases h
  · cases Work.eq_of_mem_atOnce h

/-- The facts of an action that begins, as they are written to the journal. -/
theorem journalWith_record (fact : Fact) (facts : List Fact) :
  (s.record fact).journalWith facts = s.journalWith (fact :: facts)
  := by
  simp [journalWith, record]

theorem beginBody_changes {id : RunId} {run : Run} {action : Action}
    (hrun : s.runs[id]? = some run) (hphase : run.phase = .draining false)
    (hready : run.activity = .ready) (hnext : run.nextOfBody? = some action) :
  Changes s (s.beginBody id run action)
  := by
  have hwork := Change.own (s.log (.beginning run.key action)) hrun
    (.beginBody hphase hready hnext) (claimed_not_mem_began _ _)
  rw [Nat.add_sub_cancel_left] at hwork
  obtain ⟨turns, hturns, hengage⟩ := updateRun_engage_eq
    (((s.updateTimeline run.key fun t => { t with begun := t.begun + 1 }).log
      (.beginning run.key action)).record (.began ⟨id, false, action⟩))
    ⟨id, false, action⟩ hrun fun r => { r with begun := r.begun + 1 }
  simp only [beginBody, hengage, journalWith_record]
  apply ((log_changes s _).tail hwork).tail
  exact .aside s.commands s.awaiting hturns (Nat.le_refl _)

theorem beginCleanUp_changes {id : RunId} {run : Run} {action : Action} {cancelled : Bool}
    (hrun : s.runs[id]? = some run) (hphase : run.phase = .cleaning cancelled)
    (hready : run.activity = .ready) (hnext : run.nextOfCleanUp? = some action) :
  Changes s (s.beginCleanUp id action)
  := by
  have hwork := Change.own s hrun
    (.beginCleanUp hphase hready hnext) (claimed_not_mem_began _ _)
  rw [Nat.sub_self, timelinesWith_zero] at hwork
  obtain ⟨turns, hturns, hengage⟩ := updateRun_engage_eq (s.record (.began ⟨id, true, action⟩))
    ⟨id, true, action⟩ hrun fun r => { r with cleaned := r.cleaned + 1 }
  simp only [beginCleanUp, hengage, journalWith_record]
  apply Relation.ReflTransGen.tail (.single hwork)
  exact .aside s.commands s.awaiting hturns (Nat.le_refl _)

theorem takeUp_changes {id : RunId} {run : Run} {action : Action} {error : Option StepError}
    (hrun : s.runs[id]? = some run) (hreturned : run.activity = .returned action error) :
  Changes s (s.takeUp id run action error)
  := by
  have hown : ∀ ticket, .claimed id (some ticket) ∉
      Fact.over ⟨id, run.isCleaning, action⟩ error :: run.failure id action.line error := by
    intro ticket
    rw [Run.failure]
    split <;> simp
  unfold takeUp
  simp only
  split
  · have hwork := Change.own s hrun (.takeUp hreturned) hown
    have hquiet : run.failure id action.line none = [] := by
      rw [Run.failure]
      split <;> rfl
    rw [Nat.sub_self, timelinesWith_zero, hquiet] at hwork
    rw [conclude_eq s _ hrun]
    exact .single hwork
  · rename_i e stopping hphase
    have hwork := Change.own (s.log (.stepFailed run.key action.line e)) hrun
      (.takeUp hreturned) hown
    rw [Nat.sub_self, timelinesWith_zero, Run.failure_of_draining hphase] at hwork
    rw [conclude_eq (s.log (.stepFailed run.key action.line e))
      ⟨id, run.isCleaning, action⟩ hrun]
    exact .head (.record (.noted (.stepFailed run.key action.line e)) rfl rfl) (.single hwork)
  · rename_i e hphase
    have hwork := Change.own (s.log (.cleanUpFailed run.key action.line e)) hrun
      (.takeUp hreturned) hown
    have hquiet : run.failure id action.line (some e) = [] :=
      Run.failure_of_not_draining hphase _ _
    rw [Nat.sub_self, timelinesWith_zero, hquiet] at hwork
    rw [conclude_eq (s.log (.cleanUpFailed run.key action.line e))
      ⟨id, run.isCleaning, action⟩ hrun]
    exact .head (.record (.noted (.cleanUpFailed run.key action.line e)) rfl rfl) (.single hwork)

theorem proceed_changes {id : RunId} {run : Run} (hrun : s.runs[id]? = some run)
    (hready : run.activity = .ready) :
  Changes s (s.proceed id run)
  := by
  rw [proceed]
  split
  · rename_i hphase
    split
    · rename_i hnext
      have hwork := Change.own s hrun (.drain hphase hready hnext) (by simp)
      rw [Nat.sub_self, timelinesWith_zero] at hwork
      rw [claimOwnEnd, turnToCleanUp,
        updateRun_eq ((s.record (.claimed id none)).log (.finished run.key)) hrun]
      apply Relation.ReflTransGen.head hwork
      apply log_changes _ (.finished run.key)
    · rename_i action hnext
      apply beginBody_changes s hrun hphase hready hnext
  · rename_i hphase
    rw [leaveBody]
    split
    · have hwork := Change.own s hrun (.leave hphase hready) (by simp)
      rw [Nat.sub_self, timelinesWith_zero] at hwork
      rw [turnToCleanUp, updateRun_eq s hrun]
      exact .single hwork
    · have hwork := Change.own (s.log (.cutShort run.key run.undone)) hrun
        (.leave hphase hready) (by simp)
      rw [Nat.sub_self, timelinesWith_zero] at hwork
      rw [turnToCleanUp, updateRun_eq (s.log (.cutShort run.key run.undone)) hrun]
      apply (log_changes s _).tail hwork
  · rename_i cancelled hphase
    split
    · rename_i hnext
      have hwork := Change.own s hrun (.finish hphase hready hnext) (by simp)
      rw [Nat.sub_self, timelinesWith_zero] at hwork
      rw [finish, updateRun_eq s hrun]
      exact .single hwork
    · rename_i action hnext
      apply beginCleanUp_changes s hrun hphase hready hnext
  · exact .refl

theorem work_changes (id : RunId) :
  Changes s (s.work id)
  := by
  rw [work]
  split
  · exact .refl
  · rename_i run hrun
    split
    · rename_i hready
      apply proceed_changes s hrun hready
    · rename_i action hcalling
      apply handle_changes s hrun hcalling
    · rename_i action error hreturned
      apply takeUp_changes s hrun hreturned
    · rename_i line milliseconds deadline hwaiting
      simp only
      split
      · rename_i hphase
        have hwork := Change.own (s.log (.waitInterrupted milliseconds)) hrun
          (.wake hwaiting (.inl hphase)) (by simp)
        rw [Nat.sub_self, timelinesWith_zero] at hwork
        rw [conclude_eq (s.log (.waitInterrupted milliseconds))
          ⟨id, run.isCleaning, .delay line milliseconds⟩ hrun]
        apply (log_changes s _).tail hwork
      · split
        · rename_i hdue
          have hwork := Change.own s hrun (.wake hwaiting (.inr hdue)) (by simp)
          rw [Nat.sub_self, timelinesWith_zero] at hwork
          rw [conclude_eq s _ hrun]
          exact .single hwork
        · exact .refl

theorem step_changes (move : Move) :
  Changes s (s.step move)
  := by
  cases move with
  | work id => exact work_changes s id
  | serve i => exact serve_changes s i

/-! ### Starts -/

/-- Once enrolled, a timeline is known. -/
theorem timeline?_enroll (key : String) :
  ((s.enroll key).timeline? key).isSome
  := by
  rw [enroll]
  split
  · assumption
  · simp [timeline?, List.find?_append]

theorem commit_changes (o : Opening) :
  Changes s (s.commit o).1
  := by
  rw [commit]
  split
  · exact .refl
  · rename_i hactive
    have hidle : s.isActive o.key = false := by simpa using hactive
    have henroll : Changes s (s.enroll o.key) := .single (.enroll o.key)
    simp only
    split
    · apply henroll.trans (log_changes _ _)
    · rename_i body hbody
      have hcompiled := henroll.trans (log_changes _ (.compiled o.key body.length))
      split
      · apply hcompiled.trans (log_changes _ _)
      · rename_i cleanUp hcleanUp
        apply hcompiled.trans
        apply Relation.ReflTransGen.head (.record
          (.noted (.starting o.key body.length o.args.length)) rfl rfl)
        exact .single (.launch o body cleanUp ((isActive_enroll s o.key o.key).trans hidle)
          (timeline?_enroll s o.key) hbody hcleanUp)

theorem start_changes (files : Files) (file : String) (args : List String) :
  Changes s (s.start files file args).1
  := by
  rw [start]
  split
  · exact .refl
  · apply commit_changes s _

/-! ### Operators -/

theorem grant_changes (ticket : Ticket) (files : Files) (request : Request) :
  Changes s (s.grant ticket files request)
  := by
  cases request with
  | start file args =>
    apply (start_changes s files file args).trans
    apply answer_changes
    apply stops_startFeedback
  | stop file => exact stop_changes s ticket _ file
  | list => exact answer_changes s ticket rfl
  | unclear file => exact answer_changes s ticket rfl

theorem execute_changes (ticket : Ticket) (files : Files) (actor : Actor)
    (args : List String) :
  Changes s (s.execute ticket files actor args)
  := by
  unfold execute
  simp only
  split
  · apply (log_changes s _).trans (answer_changes _ ticket rfl)
  · apply grant_changes s ticket files _

end CommandTimelines.Server
