import CommandTimelines.Session
import Mathlib.Data.List.InsertIdx

/-!
# Answers addressed otherwise

The ticket of a request says which step made it and which file it named. The server looks at
neither: it keeps the ticket until the request is answered. So if all tickets are put in place of
others (`Server.readdress`), each operation of the server does the same as before, and its answers
are addressed otherwise. There is one lemma for each operation. The tickets of requests that no
step made stay as they are.
-/

namespace CommandTimelines

open Host Script Operator

section

variable (τ : Ticket → Ticket)

/-- A request whose ticket is another one. -/
def Pending.readdress : Pending → Pending
  | .stopping ticket asker id => .stopping (τ ticket) asker id
  | .finishing ticket id => .finishing (τ ticket) id
  | .stoppingAll ticket current rest count => .stoppingAll (τ ticket) current rest count

/-- A fact about requests whose tickets are others. -/
def Fact.readdress : Fact → Fact
  | .claimed id stop => .claimed id (stop.map τ)
  | .answered ticket reply => .answered (τ ticket) reply
  | fact => fact

/-- An entry about requests whose tickets are others. -/
def Entry.readdress (entry : Entry) : Entry := { entry with fact := entry.fact.readdress τ }

/-- Nothing but answers is addressed to anyone. -/
theorem Entry.readdress_views (entry : Entry) :
  (entry.readdress τ).call? = entry.call? ∧ (entry.readdress τ).event? = entry.event? ∧
  (entry.readdress τ).note? = entry.note? ∧
  (entry.readdress τ).answer? = entry.answer?.map fun (ticket, reply) => (τ ticket, reply)
  := by
  obtain ⟨time, fact⟩ := entry
  cases fact <;> exact ⟨rfl, rfl, rfl, rfl⟩

end

namespace Server

variable (τ : Ticket → Ticket) (s : Server)

/-- The server with other tickets. -/
def readdress : Server :=
  { s with
    pending := s.pending.map (·.readdress τ)
    journal := s.journal.map (·.readdress τ) }

/-! ### Small changes -/

theorem log_readdress (note : Note) :
  (s.readdress τ).log note = (s.log note).readdress τ
  := rfl

theorem answer_readdress (ticket : Ticket) (reply : Reply) :
  (s.readdress τ).answer (τ ticket) reply = (s.answer ticket reply).readdress τ
  := rfl

theorem await_readdress (p : Pending) :
  (s.readdress τ).await (p.readdress τ) = (s.await p).readdress τ
  := by
  simp [await, readdress]

theorem yieldTurn_readdress (id : RunId) :
  (s.readdress τ).yieldTurn id = (s.yieldTurn id).readdress τ
  := rfl

theorem enroll_readdress (key : String) :
  (s.readdress τ).enroll key = (s.enroll key).readdress τ
  := by
  have htimeline : (s.readdress τ).timeline? key = s.timeline? key := rfl
  rw [enroll, enroll, htimeline]
  split <;> rfl

/-! ### Requests -/

theorem claim?_readdress (ticket : Ticket) (id : RunId) :
  (s.readdress τ).claim? (τ ticket) id = (s.claim? ticket id).map (·.readdress τ)
  := by
  have hruns : (s.readdress τ).runs = s.runs := rfl
  rw [claim?, claim?, hruns]
  cases s.runs[id]? with
  | none => rfl
  | some run =>
    by_cases hphase : run.phase = .draining false
    · simp only [hphase, if_true, Option.map_some]
      split <;> rfl
    · simp only [hphase, if_false, Option.map_none]

theorem stop_readdress (ticket : Ticket) (asker : Asker) (file : String) :
  (s.readdress τ).stop (τ ticket) asker file = (s.stop ticket asker file).readdress τ
  := by
  rw [stop, stop]
  cases Path.key? file with
  | none => rfl
  | some key =>
    have hcurrent : (s.readdress τ).currentRun? key = s.currentRun? key := rfl
    simp only [hcurrent]
    cases s.currentRun? key with
    | none => rfl
    | some id =>
      simp only [Option.bind_some, claim?_readdress]
      cases s.claim? ticket id with
      | none => rfl
      | some s' => exact await_readdress τ s' (.stopping ticket asker id)

theorem stopEach_readdress (ticket : Ticket) (ids : List RunId) :
  (s.readdress τ).stopEach (τ ticket) ids = (s.stopEach ticket ids).readdress τ
  := await_readdress τ s (.stoppingAll ticket none ids 0)

theorem awaitEnd?_readdress (ticket : Ticket) (file : String) :
  (s.readdress τ).awaitEnd? (τ ticket) file
    = (s.awaitEnd? ticket file).map (·.readdress τ)
  := by
  have hcurrent : (s.readdress τ).currentRun? = s.currentRun? := rfl
  rw [awaitEnd?, awaitEnd?, hcurrent, Option.map_map]
  congr 1
  funext id
  exact await_readdress τ s (.finishing ticket id)

theorem isDue_readdress (p : Pending) :
  (s.readdress τ).isDue (p.readdress τ) = s.isDue p
  := by
  cases p with
  | stopping ticket asker id => rfl
  | finishing ticket id => rfl
  | stoppingAll ticket current rest count => cases current <;> rfl

/-- One request is put forward, and the others are not touched. -/
theorem setPending_readdress (i : Nat) (p : Pending) :
  ({ s.readdress τ with pending := (s.readdress τ).pending.set i (p.readdress τ) } : Server)
    = ({ s with pending := s.pending.set i p } : Server).readdress τ
  := by
  simp [readdress, List.map_set]

/-- One request is taken out, and the others are not touched. -/
theorem erasePending_readdress (i : Nat) :
  ({ s.readdress τ with pending := (s.readdress τ).pending.eraseIdx i } : Server)
    = ({ s with pending := s.pending.eraseIdx i } : Server).readdress τ
  := by
  simp [readdress, List.eraseIdx_map]

theorem serve_readdress (i : Nat) :
  (s.readdress τ).serve i = (s.serve i).readdress τ
  := by
  have hi : (s.readdress τ).pending[i]? = s.pending[i]?.map (·.readdress τ) :=
    List.getElem?_map
  rw [serve, serve, hi]
  cases s.pending[i]? with
  | none => rfl
  | some p =>
    simp only [Option.map_some, isDue_readdress, erasePending_readdress]
    split
    · rfl
    · cases p with
      | stopping ticket asker id => rfl
      | finishing ticket id => rfl
      | stoppingAll ticket current rest count =>
        cases current with
        | some id =>
          exact congrArg (·.log (.stopped (s.runName id)))
            (setPending_readdress τ s i (.stoppingAll ticket none rest (count + 1)))
        | none =>
          cases rest with
          | nil =>
            simp only [Pending.readdress]
            split <;> rfl
          | cons id rest =>
            simp only [Pending.readdress, claim?_readdress]
            cases s.claim? ticket id with
            | none => exact setPending_readdress τ s i (.stoppingAll ticket none rest count)
            | some s' =>
              exact setPending_readdress τ s' i (.stoppingAll ticket (some id) rest count)

/-! ### Starts -/

theorem commit_readdress (o : Opening) :
  (s.readdress τ).commit o = ((s.commit o).1.readdress τ, (s.commit o).2)
  := by
  have hactive : (s.readdress τ).isActive o.key = s.isActive o.key := rfl
  rw [commit, commit, hactive]
  split
  · rfl
  · simp only [enroll_readdress]
    have hbody : ((s.enroll o.key).readdress τ).bodyOf o = (s.enroll o.key).bodyOf o := rfl
    rw [hbody]
    cases (s.enroll o.key).bodyOf o with
    | error error => rfl
    | ok body =>
      have hcleanUp : (((s.enroll o.key).readdress τ).log (.compiled o.key body.length)).cleanUpOf o
          = ((s.enroll o.key).log (.compiled o.key body.length)).cleanUpOf o := rfl
      simp only [hcleanUp]
      cases ((s.enroll o.key).log (.compiled o.key body.length)).cleanUpOf o <;> rfl

theorem start_readdress (files : Files) (file : String) (args : List String) :
  (s.readdress τ).start files file args
    = ((s.start files file args).1.readdress τ, (s.start files file args).2)
  := by
  have hsettings : (s.readdress τ).settings = s.settings := rfl
  rw [start, start, hsettings]
  split
  · rfl
  · apply commit_readdress

theorem execute_readdress (ticket : Ticket) (files : Files) (actor : Actor) (args : List String) :
  (s.readdress τ).execute (τ ticket) files actor args
    = (s.execute ticket files actor args).readdress τ
  := by
  unfold execute
  simp only
  split
  · rfl
  · cases Request.ofArgs args with
    | start file args =>
      simp only [grant, start_readdress]
      rfl
    | stop file => apply stop_readdress
    | list => rfl
    | unclear file => rfl

/-! ### Calls -/

section

variable (hnone : ∀ file, τ ⟨none, file⟩ = ⟨none, file⟩)

include hnone

theorem call_readdress (caller : Option Work) (c : Call) :
  (s.readdress τ).call caller c = (s.call caller c).readdress τ
  := by
  rw [call, call]
  cases c.target.behaviour with
  | stop =>
    have hstop := (s.record (.called caller c)).stop_readdress τ
      ⟨none, c.invocation.args.headD ""⟩ .program (c.invocation.args.headD "")
    rw [hnone] at hstop
    exact hstop
  | ask key answer => rfl
  | succeed => rfl
  | fail message context => rfl
  | panic message => rfl

theorem callCommand_readdress (caller : Option Work) (c : Command) (invocation : Invocation) :
  (s.readdress τ).callCommand caller c invocation
    = (s.callCommand caller c invocation).readdress τ
  := by
  unfold callCommand
  simp only
  split
  · rw [log_readdress, call_readdress τ _ hnone]
  · rw [call_readdress τ _ hnone]

theorem callEach_readdress (invocation : Invocation) (found : List Command) :
  ∀ s : Server, (s.readdress τ).callEach invocation found
    = ((s.callEach invocation found).1.readdress τ, (s.callEach invocation found).2)
  := by
  induction found with
  | nil =>
    intro s
    rfl
  | cons c rest ih =>
    intro s
    rw [callEach, callEach, callCommand_readdress τ s hnone, ih]

theorem respond?_readdress (caller : Option Work) (key : String) (invocation : Invocation) :
  (s.readdress τ).respond? caller key invocation
    = (s.respond? caller key invocation).map fun (s, outcome) => (s.readdress τ, outcome)
  := by
  have hawaiting : (s.readdress τ).awaiting = s.awaiting := rfl
  rw [respond?, respond?, hawaiting]
  cases Awaiting.take s.awaiting key with
  | none => rfl
  | some taken =>
    obtain ⟨a, rest⟩ := taken
    have hcall := call_readdress τ { s with awaiting := rest } hnone caller
      ⟨.response a, invocation⟩
    exact congrArg some (Prod.ext hcall rfl)

theorem carryOut_readdress (work : Work) :
  (s.readdress τ).carryOut work = (s.carryOut work).readdress τ
  := by
  rw [carryOut, carryOut]
  split
  · rfl
  · rw [callCommand_readdress τ s hnone]
  · rename_i line key raw args haction
    rw [respond?_readdress τ s hnone]
    cases s.respond? (some work) key { raw, args } <;> rfl

/-! ### The work of a run -/

omit hnone in
theorem engage_readdress (work : Work) :
  (s.readdress τ).engage work = (s.engage work).readdress τ
  := by
  rw [engage, engage]
  split <;> rfl

omit hnone in
theorem proceed_readdress (id : RunId) (run : Run) :
  (s.readdress τ).proceed id run = (s.proceed id run).readdress τ
  := by
  rw [proceed, proceed]
  split
  · split
    · rfl
    · rw [beginBody, beginBody, ← engage_readdress]
      rfl
  · rw [leaveBody, leaveBody]
    split <;> rfl
  · split
    · rfl
    · rw [beginCleanUp, beginCleanUp, ← engage_readdress]
      rfl
  · rfl

theorem handle_readdress (id : RunId) (run : Run) (action : Action) :
  (s.readdress τ).handle id run action = (s.handle id run action).readdress τ
  := by
  have hcalled := (s.setActivity id (.returned action
    (s.failure? ⟨id, run.isCleaning, action⟩))).carryOut_readdress τ hnone
      ⟨id, run.isCleaning, action⟩
  exact congrArg (·.yieldTurn id) hcalled

omit hnone in
theorem takeUp_readdress (id : RunId) (run : Run) (action : Action) (error : Option StepError) :
  (s.readdress τ).takeUp id run action error = (s.takeUp id run action error).readdress τ
  := by
  unfold takeUp
  simp only
  split <;> rfl

theorem work_readdress (id : RunId) :
  (s.readdress τ).work id = (s.work id).readdress τ
  := by
  have hruns : (s.readdress τ).runs = s.runs := rfl
  have hclock : (s.readdress τ).clock = s.clock := rfl
  rw [work, work, hruns, hclock]
  split
  · rfl
  · split
    · apply proceed_readdress
    · apply handle_readdress τ s hnone
    · apply takeUp_readdress
    · simp only
      split
      · rfl
      · split <;> rfl

theorem step_readdress (move : Move) :
  (s.readdress τ).step move = (s.step move).readdress τ
  := by
  cases move with
  | work id => apply work_readdress τ s hnone
  | serve i => apply serve_readdress

/-! ### Letting time pass -/

omit hnone in
theorem moves_readdress :
  (s.readdress τ).moves = s.moves
  := by
  have hserve : (s.readdress τ).canServe = s.canServe := by
    funext i
    have hi : (s.readdress τ).pending[i]? = s.pending[i]?.map (·.readdress τ) :=
      List.getElem?_map
    rw [canServe, canServe, hi]
    cases s.pending[i]? with
    | none => rfl
    | some p => apply isDue_readdress
  have hwork : (s.readdress τ).canWork = s.canWork := rfl
  have hlength : (s.readdress τ).pending.length = s.pending.length := List.length_map _
  rw [moves, moves, hserve, hwork, hlength]
  rfl

omit hnone in
theorem load_readdress :
  (s.readdress τ).load = s.load
  := by
  have hload : ∀ p : Pending, pendingLoad (p.readdress τ) = pendingLoad p := by
    intro p
    cases p <;> rfl
  simp only [load, readdress, List.foldr_map, hload]

theorem settleIn_readdress (n : Nat) :
  (s.readdress τ).settleIn n = (s.settleIn n).readdress τ
  := by
  induction n generalizing s with
  | zero => rfl
  | succ n ih =>
    rw [settleIn, settleIn, moves_readdress]
    cases s.moves with
    | nil => rfl
    | cons move rest => simp only [step_readdress τ s hnone, ih]

theorem settle_readdress :
  (s.readdress τ).settle = s.settle.readdress τ
  := by
  rw [settle, settle, load_readdress, settleIn_readdress τ s hnone]

theorem advanceIn_readdress (target n : Nat) :
  (s.readdress τ).advanceIn target n = (s.advanceIn target n).readdress τ
  := by
  induction n generalizing s with
  | zero => rfl
  | succ n ih =>
    have hdeadlines : (s.readdress τ).deadlines = s.deadlines := rfl
    rw [advanceIn, advanceIn, hdeadlines]
    split
    · rfl
    · rename_i time htime
      have hsettle := (s.setClock time).settle_readdress τ hnone
      rw [← ih, ← hsettle]
      rfl

theorem advance_readdress (milliseconds : Nat) :
  (s.readdress τ).advance milliseconds = (s.advance milliseconds).readdress τ
  := by
  have hclock : (s.readdress τ).clock = s.clock := rfl
  rw [advance, advance, load_readdress, hclock, advanceIn_readdress τ s hnone]

end

end Server

end CommandTimelines
