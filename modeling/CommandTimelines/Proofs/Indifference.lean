import CommandTimelines.Server.Clock
import CommandTimelines.Server.Execute

/-!
# What only starts look at

The commands that are registered are looked up when a script is compiled, and by name when someone
asks for them. What runs and requests do after that does not depend on them: each operation of the
server does the same with other commands in their place (`Server.withCommands`), and leaves them
as they are. There is one lemma for each operation.
-/

namespace CommandTimelines.Server

open Host Script Operator

variable (s : Server) (commands : List Command)

/-- The server with other commands. -/
def withCommands : Server := { s with commands }

/-- What does not look at the commands leaves them as they are. -/
theorem commands_eq {f : Server → Server}
    (hf : ∀ commands, f (s.withCommands commands) = (f s).withCommands commands) :
  (f s).commands = s.commands
  := by
  have hcommands := congrArg Server.commands (hf s.commands)
  exact hcommands

/-! ### Small changes -/

@[simp]
theorem record_withCommands (fact : Fact) :
  (s.withCommands commands).record fact = (s.record fact).withCommands commands
  := rfl

@[simp]
theorem log_withCommands (note : Note) :
  (s.withCommands commands).log note = (s.log note).withCommands commands
  := rfl

@[simp]
theorem answer_withCommands (ticket : Ticket) (reply : Reply) :
  (s.withCommands commands).answer ticket reply = (s.answer ticket reply).withCommands commands
  := rfl

@[simp]
theorem setActivity_withCommands (id : RunId) (activity : Activity) :
  (s.withCommands commands).setActivity id activity
    = (s.setActivity id activity).withCommands commands
  := rfl

@[simp]
theorem yieldTurn_withCommands (id : RunId) :
  (s.withCommands commands).yieldTurn id = (s.yieldTurn id).withCommands commands
  := rfl

@[simp]
theorem await_withCommands (p : Pending) :
  (s.withCommands commands).await p = (s.await p).withCommands commands
  := rfl

@[simp]
theorem setClock_withCommands (time : Nat) :
  (s.withCommands commands).setClock time = (s.setClock time).withCommands commands
  := rfl

/-! ### Stops -/

theorem claim?_withCommands (ticket : Ticket) (id : RunId) :
  (s.withCommands commands).claim? ticket id
    = (s.claim? ticket id).map (·.withCommands commands)
  := by
  have hruns : (s.withCommands commands).runs = s.runs := rfl
  rw [claim?, claim?, hruns]
  cases s.runs[id]? with
  | none => rfl
  | some run =>
    by_cases hphase : run.phase = .draining false
    · simp only [hphase, if_true, Option.map_some]
      split <;> rfl
    · simp only [hphase, if_false, Option.map_none]

@[simp]
theorem stop_withCommands (ticket : Ticket) (asker : Asker) (file : String) :
  (s.withCommands commands).stop ticket asker file
    = (s.stop ticket asker file).withCommands commands
  := by
  rw [stop, stop]
  cases Path.key? file with
  | none => rfl
  | some key =>
    have hcurrent : (s.withCommands commands).currentRun? key = s.currentRun? key := rfl
    simp only [hcurrent, claim?_withCommands]
    cases s.currentRun? key with
    | none => rfl
    | some id => cases hclaim : s.claim? ticket id <;> simp [hclaim]

theorem isDue_withCommands :
  (s.withCommands commands).isDue = s.isDue
  := by
  funext p
  cases p with
  | stopping ticket asker id => rfl
  | finishing ticket id => rfl
  | stoppingAll ticket current rest count => cases current <;> rfl

theorem serve_withCommands (i : Nat) :
  (s.withCommands commands).serve i = (s.serve i).withCommands commands
  := by
  have hpending : (s.withCommands commands).pending = s.pending := rfl
  rw [serve, serve, hpending]
  cases s.pending[i]? with
  | none => rfl
  | some p =>
    simp only [isDue_withCommands]
    split
    · rfl
    · cases p with
      | stopping ticket asker id => rfl
      | finishing ticket id => rfl
      | stoppingAll ticket current rest count =>
        cases current with
        | some id => rfl
        | none =>
          cases rest with
          | nil =>
            simp only
            split <;> rfl
          | cons id rest =>
            simp only [claim?_withCommands]
            cases s.claim? ticket id <;> rfl

/-! ### Calls -/

@[simp]
theorem call_withCommands (caller : Option Work) (c : Call) :
  (s.withCommands commands).call caller c = (s.call caller c).withCommands commands
  := by
  rw [call, call, record_withCommands]
  cases c.target.behaviour with
  | stop => apply stop_withCommands
  | ask key answer => rfl
  | succeed => rfl
  | fail message context => rfl
  | panic message => rfl

@[simp]
theorem callCommand_withCommands (caller : Option Work) (c : Command) (invocation : Invocation) :
  (s.withCommands commands).callCommand caller c invocation
    = (s.callCommand caller c invocation).withCommands commands
  := by
  unfold callCommand
  simp only
  split <;> simp

theorem respond?_withCommands (caller : Option Work) (key : String) (invocation : Invocation) :
  (s.withCommands commands).respond? caller key invocation
    = (s.respond? caller key invocation).map fun (s, outcome) =>
      (s.withCommands commands, outcome)
  := by
  have hawaiting : (s.withCommands commands).awaiting = s.awaiting := rfl
  rw [respond?, respond?, hawaiting]
  cases Awaiting.take s.awaiting key with
  | none => rfl
  | some taken =>
    obtain ⟨a, rest⟩ := taken
    have hcall := call_withCommands { s with awaiting := rest } commands caller
      ⟨.response a, invocation⟩
    exact congrArg some (Prod.ext hcall rfl)

@[simp]
theorem carryOut_withCommands (work : Work) :
  (s.withCommands commands).carryOut work = (s.carryOut work).withCommands commands
  := by
  rw [carryOut, carryOut]
  split
  · rfl
  · simp
  · rename_i line key raw args haction
    rw [respond?_withCommands]
    cases s.respond? (some work) key { raw, args } <;> rfl

/-! ### The work of a run -/

@[simp]
theorem engage_withCommands (work : Work) :
  (s.withCommands commands).engage work = (s.engage work).withCommands commands
  := by
  rw [engage, engage]
  split <;> rfl

theorem proceed_withCommands (id : RunId) (run : Run) :
  (s.withCommands commands).proceed id run = (s.proceed id run).withCommands commands
  := by
  rw [proceed, proceed]
  split
  · split
    · rfl
    · rw [beginBody, beginBody, ← engage_withCommands]
      rfl
  · rw [leaveBody, leaveBody]
    split <;> rfl
  · split
    · rfl
    · rw [beginCleanUp, beginCleanUp, ← engage_withCommands]
      rfl
  · rfl

theorem handle_withCommands (id : RunId) (run : Run) (action : Action) :
  (s.withCommands commands).handle id run action = (s.handle id run action).withCommands commands
  := by
  have hfailure : (s.withCommands commands).failure? = s.failure? := rfl
  simp only [handle, hfailure, setActivity_withCommands, carryOut_withCommands,
    yieldTurn_withCommands]

theorem takeUp_withCommands (id : RunId) (run : Run) (action : Action)
    (error : Option StepError) :
  (s.withCommands commands).takeUp id run action error
    = (s.takeUp id run action error).withCommands commands
  := by
  unfold takeUp
  simp only
  split <;> rfl

theorem work_withCommands (id : RunId) :
  (s.withCommands commands).work id = (s.work id).withCommands commands
  := by
  have hruns : (s.withCommands commands).runs = s.runs := rfl
  have hclock : (s.withCommands commands).clock = s.clock := rfl
  rw [work, work, hruns, hclock]
  split
  · rfl
  · split
    · apply proceed_withCommands
    · apply handle_withCommands
    · apply takeUp_withCommands
    · simp only
      split
      · rfl
      · split <;> rfl

theorem step_withCommands (move : Move) :
  (s.withCommands commands).step move = (s.step move).withCommands commands
  := by
  cases move with
  | work id => apply work_withCommands
  | serve i => apply serve_withCommands

/-! ### Letting time pass -/

@[simp]
theorem moves_withCommands :
  (s.withCommands commands).moves = s.moves
  := by
  have hserve : (s.withCommands commands).canServe = s.canServe := by
    have hpending : (s.withCommands commands).pending = s.pending := rfl
    funext i
    rw [canServe, canServe, isDue_withCommands, hpending]
  have hwork : (s.withCommands commands).canWork = s.canWork := rfl
  rw [moves, moves, hserve, hwork]
  rfl

theorem settleIn_withCommands (n : Nat) :
  ((s.withCommands commands).settleIn n) = (s.settleIn n).withCommands commands
  := by
  induction n generalizing s with
  | zero => rfl
  | succ n ih =>
    rw [settleIn, settleIn, moves_withCommands]
    cases s.moves with
    | nil => rfl
    | cons move rest => simp only [step_withCommands, ih]

@[simp]
theorem settle_withCommands :
  (s.withCommands commands).settle = s.settle.withCommands commands
  := settleIn_withCommands s commands s.load

theorem advanceIn_withCommands (target n : Nat) :
  (s.withCommands commands).advanceIn target n = (s.advanceIn target n).withCommands commands
  := by
  induction n generalizing s with
  | zero => rfl
  | succ n ih =>
    have hdeadlines : (s.withCommands commands).deadlines = s.deadlines := rfl
    rw [advanceIn, advanceIn, hdeadlines]
    split
    · rfl
    · rw [setClock_withCommands, settle_withCommands, ih]

@[simp]
theorem advance_withCommands (milliseconds : Nat) :
  (s.withCommands commands).advance milliseconds
    = (s.advance milliseconds).withCommands commands
  := advanceIn_withCommands s commands _ s.load

end CommandTimelines.Server
