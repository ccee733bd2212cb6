import CommandTimelines.Server.Work

/-!
# Letting time pass

Time is virtual. `settle` lets everything happen that can happen without time passing, and
`advance` moves the clock, stopping wherever a wait is over. Both come to an end because every
step lowers the server's load.
-/

namespace CommandTimelines.Server

variable (s : Server)

/-- One small step of the server. -/
inductive Move where
  /-- The next step of a run. -/
  | work (id : RunId)
  /-- The next step of the waiting request at a position. -/
  | serve (i : Nat)
deriving DecidableEq, Repr

/-- The server after a step. -/
def step : Move → Server
  | .work id => s.work id
  | .serve i => s.serve i

/-- Whether a run can take its next step. -/
def canWork (id : RunId) : Bool :=
  match s.runs[id]? with
  | some run => run.canMove s.clock
  | none => false

/-- Whether the waiting request at a position can take its next step. -/
def canServe (i : Nat) : Bool :=
  match s.pending[i]? with
  | some p => s.isDue p
  | none => false

/-- Whether a step is possible now. -/
def isEnabled : Move → Bool
  | .work id => s.canWork id
  | .serve i => s.canServe i

/-- The steps that are possible now: those of requests, and then those of runs in the order of
their turns. -/
def moves : List Move :=
  ((List.range s.pending.length).filter s.canServe).map .serve
    ++ (s.turns.filter s.canWork).map .work

/-- An upper bound of the steps that a waiting request still takes. -/
def pendingLoad : Pending → Nat
  | .stopping _ _ _ => 1
  | .finishing _ _ => 1
  | .stoppingAll _ current rest _ =>
    1 + 2 * rest.length + (if current.isSome then 1 else 0)

/-- An upper bound of the steps that the server still takes, unless something is asked of
it. -/
def load : Nat :=
  s.runs.foldr (fun run n => run.load + n) 0 + s.pending.foldr (fun p n => pendingLoad p + n) 0

/-- The server after at most `n` steps, always the first one possible. -/
def settleIn : Nat → Server → Server
  | 0, s => s
  | n + 1, s =>
    match s.moves with
    | [] => s
    | move :: _ => settleIn n (s.step move)

/-- The server after everything has happened that can happen without time passing. -/
def settle : Server := settleIn s.load s

/-- The deadlines that runs wait for. -/
def deadlines : List Nat :=
  s.runs.filterMap fun run =>
    match run.activity with
    | .waiting _ _ deadline => some deadline
    | _ => none

/-- The server with its clock set. -/
def setClock (time : Nat) : Server := { s with clock := time }

/-- The server at a later time, after at most `n` stops on the way. -/
def advanceIn (target : Nat) : Nat → Server → Server
  | 0, s => s.setClock target
  | n + 1, s =>
    match (s.deadlines.filter (· ≤ target)).min? with
    | none => s.setClock target
    | some time => advanceIn target n (s.setClock time).settle

/-- The server after a number of milliseconds, with everything done that is due by then. -/
def advance (milliseconds : Nat) : Server :=
  advanceIn (s.clock + milliseconds) s.load s

/-- The server after at most `n` instants at which a wait is over, as many as are needed until
no request is waiting. -/
def answerIn : Nat → Server → Server
  | 0, s => s
  | n + 1, s =>
    if s.pending.isEmpty then s
    else match s.deadlines.min? with
      | none => s
      | some time => answerIn n (s.setClock time).settle

/-- The server after everything that can happen at once, and after as much time as it takes
until no request is waiting. -/
def answerAll : Server :=
  let s := s.settle
  answerIn s.load s

end CommandTimelines.Server
