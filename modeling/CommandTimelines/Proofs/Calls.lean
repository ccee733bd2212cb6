import CommandTimelines.Proofs.Interleaving

/-!
# Calls of runs

Handlers are called by the actions of runs, and by whoever asks for a call directly. The calls
that actions have made, `Server.runCalls`, stay as they are whatever is asked of the server: one
kind of step adds to them, that of a run whose action at hand calls its handler
(`Server.runCalls_work`). What is called then is the command that the action holds, or the
response that is awaited at that very moment (`Server.Calls`).
-/

namespace CommandTimelines

open Host Script Operator

/-- The call that an entry tells of and the action that made it, if an action did. -/
def Entry.runCall? (entry : Entry) : Option (Work × Call) :=
  match entry.fact with
  | .called (some work) call => some (work, call)
  | _ => none

theorem Entry.runCall?_eq_some {entry : Entry} {work : Work} {call : Call} :
  entry.runCall? = some (work, call) ↔ entry.fact = .called (some work) call
  := by
  rw [runCall?]
  split
  · rename_i h
    simp [h]
  · rename_i h
    simp only [reduceCtorEq, false_iff]
    exact h work call

namespace Server

variable (s : Server)

/-- The calls that actions of runs have made, latest first. -/
def runCalls : List (Work × Call) := s.journal.filterMap (·.runCall?)

/-- Nothing but a call of a handler is one of a run. -/
theorem detached_runCalls :
  Detached runCalls
  where
  record s fact h := by
    cases fact with
    | called caller call => exact absurd rfl (h caller call)
    | _ => rfl
  runs _ _ := rfl
  turns _ _ := rfl
  timelines _ _ := rfl
  pending _ _ := rfl

/-! ### Calls -/

theorem runCalls_react (invocation : Invocation) (behaviour : Behaviour) :
  (s.react invocation behaviour).runCalls = s.runCalls
  := by
  unfold react
  split
  · rfl
  · exact detached_runCalls.stop s _ _ _
  · rfl

theorem runCalls_call (c : Call) :
  (s.call none c).runCalls = s.runCalls
  := runCalls_react (s.record (.called none c)) c.invocation c.target.behaviour

theorem runCalls_call_some (work : Work) (c : Call) :
  (s.call (some work) c).runCalls = (work, c) :: s.runCalls
  := runCalls_react (s.record (.called (some work) c)) c.invocation c.target.behaviour

/-- Nothing that is asked of the server makes a run call anything. -/
theorem aloof_runCalls :
  Aloof runCalls
  where
  log _ _ := rfl
  answer _ _ _ := rfl
  commit := detached_runCalls.commit
  stop := detached_runCalls.stop
  finishing _ _ _ := rfl
  awaiting _ _ := rfl
  call := runCalls_call

/-! ### The work of a run -/

/-- The call that an action at work makes as things stand, if it makes any: of the command that
it holds, or of the handler that awaits the response it delivers. -/
inductive Calls (s : Server) (work : Work) : Call → Prop
  | invoke {line : Nat} {name raw : String} {c : Command} {silent : Bool} {args : List String}
      (h : work.action = .invoke line name c raw silent args) :
      Calls s work ⟨.command c, { raw, silent, args }⟩
  | deliver {line : Nat} {key raw : String} {args : List String} {a : Awaiting}
      {rest : List Awaiting} (h : work.action = .deliver line key raw args)
      (ha : Awaiting.take s.awaiting key = some (a, rest)) :
      Calls s work ⟨.response a, { raw, args }⟩

theorem runCalls_carryOut (work : Work) :
  (s.carryOut work).runCalls = s.runCalls
    ∨ ∃ call, s.Calls work call ∧ (s.carryOut work).runCalls = (work, call) :: s.runCalls
  := by
  rw [carryOut]
  split
  · exact .inl rfl
  · rename_i line name c raw silent args haction
    simp only [callCommand, Bool.and_false, Bool.false_eq_true, if_false]
    exact .inr ⟨_, .invoke haction, runCalls_call_some s work _⟩
  · rename_i line key raw args haction
    simp only [respond?]
    cases htake : Awaiting.take s.awaiting key with
    | none => exact .inl rfl
    | some taken =>
      obtain ⟨a, rest⟩ := taken
      exact .inr ⟨_, .deliver haction htake, runCalls_call_some { s with awaiting := rest } work _⟩

/-- A step of a run makes no call, or that of the action that the run has at hand. -/
theorem runCalls_work (id : RunId) :
  (s.work id).runCalls = s.runCalls
    ∨ ∃ run action call, s.runs[id]? = some run ∧ run.activity = .calling action
      ∧ s.Calls ⟨id, run.isCleaning, action⟩ call
      ∧ (s.work id).runCalls = (⟨id, run.isCleaning, action⟩, call) :: s.runCalls
  := by
  cases hrun : s.runs[id]? with
  | none =>
    left
    simp only [work, hrun]
  | some run =>
    cases hactivity : run.activity with
    | ready =>
      left
      simp only [work, hrun, hactivity]
      exact detached_runCalls.proceed s id run
    | calling action =>
      let atHand : Work := ⟨id, run.isCleaning, action⟩
      let s' := s.setActivity id (.returned action (s.failure? atHand))
      have hwork : (s.work id).runCalls = (s'.carryOut atHand).runCalls := by
        simp only [work, hrun, hactivity]
        rfl
      rw [hwork]
      obtain hnone | ⟨call, hcall, hcalls⟩ := runCalls_carryOut s' atHand
      · exact .inl hnone
      · right
        refine ⟨run, action, call, rfl, hactivity, ?_, hcalls⟩
        -- The handler is called before it has done anything.
        cases hcall with
        | invoke h => exact .invoke h
        | deliver h ha => exact .deliver h ha
    | returned action error =>
      left
      simp only [work, hrun, hactivity]
      exact detached_runCalls.takeUp s id run action error
    | waiting line milliseconds deadline =>
      left
      simp only [work, hrun, hactivity]
      split
      · rfl
      · split <;> rfl

end Server

/-! ### Sessions -/

namespace Session

/-- Whatever happens in a session, it adds one call of a run at most: that of the action at hand
of a run that goes on. -/
theorem runCalls_happen (session : Session) (x : Happening) :
  (session.happen x).server.runCalls = session.server.runCalls
    ∨ ∃ id run action call, session.server.runs[id]? = some run
      ∧ run.activity = .calling action
      ∧ session.server.Calls ⟨id, run.isCleaning, action⟩ call
      ∧ (session.happen x).server.runCalls
        = (⟨id, run.isCleaning, action⟩, call) :: session.server.runCalls
  := by
  have hdetached := Server.detached_runCalls
  cases x with
  | perform index step =>
    left
    exact perform_of_aloof Server.aloof_runCalls session index (fun _ _ => rfl) fun _ => rfl
  | commit opening => exact .inl (hdetached.commit session.server opening)
  | commitFor ticket file opening => exact .inl (hdetached.commit session.server opening)
  | stopEach ticket ids => exact .inl rfl
  | move move =>
    cases move with
    | work id =>
      obtain hnone | ⟨run, action, call, h⟩ := session.server.runCalls_work id
      · exact .inl hnone
      · exact .inr ⟨id, run, action, call, h⟩
    | serve i => exact .inl (hdetached.serve session.server i)
  | pass milliseconds => exact .inl rfl

end Session

end CommandTimelines
