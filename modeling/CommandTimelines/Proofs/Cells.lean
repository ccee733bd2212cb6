import CommandTimelines.Proofs.History

/-!
# The cells of a run

Whoever holds a run looks at four cells: whether its end has been claimed, whether a stop has
cancelled it, its state, and whether those who wait for its end may go on. They are written one at a
time, by the stop that claims the end and by the worker that drains the run, and the worker decides
by them and by where it stands what to do next. The phase of a run is both in one.

* Between two steps the cells hold what the phase says (`Server.Reachable.cellsOf_eq`). So a worker
  that looks at the cells takes the step that the phase tells (`Server.Reachable.work_eq`), and
  whoever looks at them learns what the phase tells (`Server.Reachable.read`).
* In the midst of a step, between two of its writes, the cells may hold what no phase says. But they
  are written in such an order that nobody is misled (`Server.Reachable.ordered`): who is told that
  the run is over finds its last state, and who finds this state finds the end claimed.
-/

namespace CommandTimelines

/-- The cells that a run shares with all who hold it. -/
structure Cells where
  /-- Whether the end of the run has been claimed. -/
  ending : Bool := false
  /-- Whether a stop has cancelled the run. -/
  cancel : Bool := false
  /-- The state, as it is shown. -/
  state : RunState := .running
  /-- Whether those who wait for the end of the run may go on. -/
  done : Bool := false
deriving DecidableEq, Repr

/-- What is written to a cell. -/
inductive Cells.Write where
  | ending
  | cancel
  | state (state : RunState)
  | done
deriving DecidableEq, Repr

namespace Cells

/-- The cells after one of them has been written. -/
def write (cells : Cells) : Write → Cells
  | .ending => { cells with ending := true }
  | .cancel => { cells with cancel := true }
  | .state state => { cells with state }
  | .done => { cells with done := true }

/-- The cells after they have been written one at a time. -/
def writeAll (cells : Cells) (writes : List Write) : Cells := writes.foldl write cells

@[simp]
theorem writeAll_nil (cells : Cells) :
  cells.writeAll [] = cells
  := rfl

theorem writeAll_append (cells : Cells) (before after : List Write) :
  cells.writeAll (before ++ after) = (cells.writeAll before).writeAll after
  := List.foldl_append

end Cells

/-- The state of a run that has ended. -/
def RunState.ofEnd (cancelled : Bool) : RunState := if cancelled then .cancelled else .finished

theorem Run.state_of_ended {run : Run} {cancelled : Bool} (h : run.phase = .ended cancelled) :
  run.state = .ofEnd cancelled
  := by
  rw [state, h]
  cases cancelled <;> rfl

/-- What is written as a fact comes about. A stop claims the end of a run and then cancels it. The
last state of a run is written before its end is published, and those who wait for it go on
after that. -/
def Fact.writes : Fact → List Cells.Write
  | .claimed _ (some _) => [.ending, .cancel]
  | .claimed _ none => [.ending]
  | .published _ (.finished _ cancelled) => [.state (.ofEnd cancelled), .done]
  | _ => []

/-- All that is written as the entries of a history come about. -/
def Entry.writes (history : List Entry) : List Cells.Write := history.flatMap (·.fact.writes)

theorem Entry.writes_append (before after : List Entry) :
  writes (before ++ after) = writes before ++ writes after
  := List.flatMap_append

/-- Executions write nothing. -/
theorem Entry.writes_map (facts : List Fact) (now : Nat) :
  writes (facts.map (Entry.mk now)) = (facts.filter (!·.isOfExecution)).flatMap Fact.writes
  := by
  rw [writes, List.flatMap_map]
  induction facts with
  | nil => rfl
  | cons fact facts ih =>
    rw [List.flatMap_cons, ih]
    cases hfact : fact.isOfExecution with
    | false => rw [List.filter_cons_of_pos (by simp [hfact]), List.flatMap_cons]
    | true =>
      have hnone : fact.writes = [] := by
        cases fact with
        | claimed run stop => cases hfact
        | published run event => cases hfact
        | _ => rfl
      rw [List.filter_cons_of_neg (by simp [hfact]), hnone, List.nil_append]

/-! ### Phases -/

/-- What the cells of a run hold in a phase. -/
def Phase.cells : Phase → Cells
  | .draining stopping => { ending := stopping, cancel := stopping }
  | .cleaning cancelled => { ending := true, cancel := cancelled }
  | .ended cancelled =>
    { ending := true, cancel := cancelled, state := .ofEnd cancelled, done := true }

/-- Where the worker of a run stands. It remembers by itself who has claimed the end. -/
inductive Post where
  | body
  | cleanUp (cancelled : Bool)
  | over
deriving DecidableEq, Repr

/-- Where the worker stands in a phase. -/
def Phase.post : Phase → Post
  | .draining _ => .body
  | .cleaning cancelled => .cleanUp cancelled
  | .ended _ => .over

/-- A phase says no more than where the worker stands and what the cells hold. -/
theorem Phase.eq_of_cells {phase other : Phase} (hpost : phase.post = other.post)
    (hcells : phase.cells = other.cells) :
  phase = other
  := by
  cases phase <;> cases other <;> simp_all [post, cells]

theorem Phase.eq_draining_true_iff {phase : Phase} :
  phase = .draining true ↔ phase.post = .body ∧ phase.cells.cancel
  := by
  cases phase <;> simp [post, cells]

/-! ### Writing -/

/-- What a step writes takes the cells from one phase to the next. -/
theorem Run.Outcome.cells_eq {id : RunId} {run run' : Run} {facts : List Fact}
    (h : Run.Outcome id run run' facts) :
  run'.phase.cells = run.phase.cells.writeAll (facts.flatMap Fact.writes)
  := by
  cases h with
  | same h => rw [h, List.flatMap_nil, Cells.writeAll_nil]
  | failed stopping line error h h' =>
    rw [h, h']
    rfl
  | stop ticket h h' =>
    rw [h, h']
    rfl
  | drain h h' =>
    rw [h, h']
    rfl
  | leave h h' =>
    rw [h, h']
    rfl
  | finish cancelled h h' =>
    rw [h, h']
    rfl

/-- All that has been written in the history of a run comes to what its phase says. -/
theorem Run.Lived.cells_eq {id : RunId} {run : Run} {history : List Entry}
    (h : Run.Lived id run history) :
  Cells.writeAll {} (Entry.writes history) = run.phase.cells
  := by
  induction h with
  | launched key body cleanUp time => rfl
  | next h hnext htime ih =>
    rw [Entry.writes_append, Cells.writeAll_append, ih, Entry.writes_map, hnext.outcome.cells_eq]

/-! ### Between two writes -/

/-- The order in which cells are written, as it shows at a moment. -/
structure Cells.Ordered (cells : Cells) : Prop where
  ending_of_cancel : cells.cancel → cells.ending
  ending_of_state : cells.state ≠ .running → cells.ending
  /-- The last state tells whether a stop has cancelled the run. -/
  state_eq : cells.state ≠ .running → cells.state = .ofEnd cells.cancel
  state_of_done : cells.done → cells.state ≠ .running

/-- Between two steps the cells are in order. -/
theorem Phase.ordered (phase : Phase) :
  phase.cells.Ordered
  := by
  cases phase with
  | draining stopping => constructor <;> simp [cells]
  | cleaning cancelled => constructor <;> simp [cells]
  | ended cancelled => cases cancelled <;> constructor <;> simp [cells, RunState.ofEnd]

/-- At each moment of a step the cells are in order. -/
theorem Run.Outcome.ordered {id : RunId} {run run' : Run} {facts : List Fact}
    (h : Run.Outcome id run run' facts) {writes : List Cells.Write}
    (hwrites : writes <+: facts.flatMap Fact.writes) :
  (run.phase.cells.writeAll writes).Ordered
  := by
  have hnone : writes <+: [] → (run.phase.cells.writeAll writes).Ordered := by
    intro hnil
    rw [List.prefix_nil.mp hnil]
    apply Phase.ordered
  have hall : writes = facts.flatMap Fact.writes →
      (run.phase.cells.writeAll writes).Ordered := by
    rintro rfl
    rw [← h.cells_eq]
    apply Phase.ordered
  -- Of two writes, what shows between them is to be looked at by itself.
  have hpair : ∀ first second, facts.flatMap Fact.writes = [first] ++ [second] →
      (run.phase.cells.write first).Ordered → (run.phase.cells.writeAll writes).Ordered := by
    intro first second hboth hfirst
    rw [hboth] at hwrites
    rcases List.prefix_concat_iff.mp hwrites with hwhole | hwrites
    · apply hall (hwhole.trans hboth.symm)
    · have hone : writes <+: [] ++ [first] := hwrites
      rcases List.prefix_concat_iff.mp hone with rfl | hnil
      · apply hfirst
      · apply hnone hnil
  cases h with
  | same h => apply hnone hwrites
  | failed stopping line error h h' => apply hnone hwrites
  | leave h h' => apply hnone hwrites
  | drain h h' =>
    have hone : writes <+: [] ++ [.ending] := hwrites
    apply (List.prefix_concat_iff.mp hone).elim hall hnone
  | stop ticket h h' =>
    apply hpair .ending .cancel rfl
    rw [h]
    constructor <;> simp [Phase.cells, Cells.write]
  | finish cancelled h h' =>
    apply hpair (.state (.ofEnd cancelled)) .done rfl
    rw [h]
    constructor <;> simp [Phase.cells, Cells.write]

/-- At each moment of the history of a run the cells are in order. -/
theorem Run.Lived.ordered {id : RunId} {run : Run} {history : List Entry}
    (h : Run.Lived id run history) {writes : List Cells.Write}
    (hwrites : writes <+: Entry.writes history) :
  (Cells.writeAll {} writes).Ordered
  := by
  induction h with
  | launched key body cleanUp time =>
    rw [List.prefix_nil.mp hwrites]
    constructor <;> simp
  | @next run run' history now facts h hnext htime ih =>
    rw [Entry.writes_append, Entry.writes_map] at hwrites
    rcases List.prefix_or_prefix_of_prefix hwrites (List.prefix_append _ _) with hbefore | hmore
    · apply ih hbefore
    · obtain ⟨more, rfl⟩ := hmore
      rw [Cells.writeAll_append, h.cells_eq]
      apply hnext.outcome.ordered ((List.prefix_append_right_inj _).mp hwrites)

namespace Server

variable (s : Server)

/-- The cells of a run, as they have been written so far. -/
def cellsOf (id : RunId) : Cells := .writeAll {} (Entry.writes (s.historyOf id))

/-! ### Reading -/

/-- What the worker of a run does that is between two actions, by where it stands and what the cells
hold. It looks at the end of the run before each action of the body, and claims it when no action
is left. -/
def take (id : RunId) (run : Run) (post : Post) (cells : Cells) : Server :=
  match post with
  | .body =>
    match run.nextOfBody? with
    | some action => if cells.ending then s.leaveBody id run else s.beginBody id run action
    | none => if cells.ending then s.leaveBody id run else s.claimOwnEnd id run
  | .cleanUp cancelled =>
    match run.nextOfCleanUp? with
    | some action => s.beginCleanUp id action
    | none => s.finish id run cancelled
  | .over => s

/-- A step of the worker of a run, by where it stands and what the cells hold. A wait of the body
heeds the cell that a stop cancels the run by, and one of the clean-up does not. -/
def poll (id : RunId) (run : Run) (post : Post) (cells : Cells) : Server :=
  match run.activity with
  | .ready => s.take id run post cells
  | .calling action => s.handle id run action
  | .returned action error => s.takeUp id run action error
  | .waiting line milliseconds deadline =>
    let work : Work := ⟨id, run.isCleaning, .delay line milliseconds⟩
    if post = .body ∧ cells.cancel then (s.log (.waitInterrupted milliseconds)).conclude work none
    else if deadline ≤ s.clock then s.conclude work none
    else s

/-- A worker that is between two actions goes on as the phase tells. -/
theorem proceed_eq_take (id : RunId) (run : Run) :
  s.proceed id run = s.take id run run.phase.post run.phase.cells
  := by
  cases hphase : run.phase with
  | draining stopping =>
    cases stopping <;> cases hnext : run.nextOfBody? <;>
      simp [proceed, take, hphase, hnext, Phase.post, Phase.cells]
  | cleaning cancelled =>
    cases hnext : run.nextOfCleanUp? <;> simp [proceed, take, hphase, hnext, Phase.post]
  | ended cancelled => simp [proceed, take, hphase, Phase.post]

variable {s} {id : RunId} {run : Run}

/-- Between two steps the cells hold what the phase says. -/
theorem Reachable.cellsOf_eq (h : s.Reachable) (hrun : s.runs[id]? = some run) :
  s.cellsOf id = run.phase.cells
  := (h.lived hrun).cells_eq

/-- A worker that looks at the cells takes the step that the phase tells. -/
theorem Reachable.work_eq (h : s.Reachable) (hrun : s.runs[id]? = some run) :
  s.work id = s.poll id run run.phase.post (s.cellsOf id)
  := by
  rw [h.cellsOf_eq hrun]
  cases hactivity : run.activity with
  | ready =>
    simp only [work, hrun, poll, hactivity]
    apply proceed_eq_take
  | calling action => simp only [work, hrun, poll, hactivity]
  | returned action error => simp only [work, hrun, poll, hactivity]
  | waiting line milliseconds deadline =>
    simp only [work, hrun, poll, hactivity, Phase.eq_draining_true_iff]

/-- Who looks at the cells learns what the phase tells: a stop finds the end of the run claimed or
not, and a handle finds the state, and the end if it waits for it. -/
theorem Reachable.read (h : s.Reachable) (hrun : s.runs[id]? = some run) :
  (∀ ticket, (s.claim? ticket id).isSome ↔ (s.cellsOf id).ending = false) ∧
  s.runState id = (s.cellsOf id).state ∧ s.hasEnded id = (s.cellsOf id).done
  := by
  rw [h.cellsOf_eq hrun]
  refine ⟨?_, ?_, ?_⟩
  · intro ticket
    rw [claim?, hrun]
    cases hphase : run.phase with
    | draining stopping => cases stopping <;> simp [Phase.cells, hphase]
    | cleaning cancelled => simp [Phase.cells, hphase]
    | ended cancelled => simp [Phase.cells, hphase]
  · rw [runState, hrun]
    simp only [Run.state]
    cases run.phase with
    | ended cancelled => cases cancelled <;> rfl
    | _ => rfl
  · rw [hasEnded, hrun]
    simp only [Run.isRunning, Run.state]
    cases run.phase with
    | ended cancelled => cases cancelled <;> rfl
    | _ => rfl

/-- At no moment do the cells mislead, not even between two writes of one step: whatever beginning
of all that is written in the history of a run has been written, the cells are in order. -/
theorem Reachable.ordered (h : s.Reachable) (hrun : s.runs[id]? = some run)
    {writes : List Cells.Write} (hwrites : writes <+: Entry.writes (s.historyOf id)) :
  (Cells.writeAll {} writes).Ordered
  := (h.lived hrun).ordered hwrites

end Server

end CommandTimelines
