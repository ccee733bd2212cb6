import CommandTimelines.Proofs.History

/-!
# Executions of actions

What a run does is told by its history as one execution after the other: an action begins, its
handler is called if it calls one, and it is over. `Run.Logged` says so of a run at any time,
an execution at hand included, and `Run.Lived.logged` that it holds of every history that the
run can have. The executions are those of the actions of the body, in their order, and then
those of the actions of the clean-up, as far as the run has come.
-/

namespace CommandTimelines

open Script

/-- The execution of an action from its beginning to its end. -/
structure Execution where
  work : Work
  start : Nat
  /-- The call that the action makes, if it does, -/
  call : Option Call
  /-- and when it makes it. -/
  time : Nat
  stop : Nat
  /-- How the action failed, if it did. -/
  error : Option StepError

namespace Execution

/-- What an execution writes to the journal, earliest first. -/
def entries (x : Execution) : List Entry :=
  ⟨x.start, .began x.work⟩ :: x.call.toList.map (fun c => ⟨x.time, .called (some x.work) c⟩)
    ++ [⟨x.stop, .over x.work x.error⟩]

/-- An execution makes the call that its action makes, and fails as this call does. A wait in
the clean-up lasts as long as it says, but not longer than any wait. -/
structure IsProper (x : Execution) : Prop where
  makes : x.work.Makes x.call x.error
  elapses : ∀ line milliseconds, x.work.action = .delay line milliseconds →
    x.work.ofCleanUp → x.start + min milliseconds Server.longestWait ≤ x.stop

end Execution

/-- Whether an entry tells of an execution. -/
def Entry.isOfExecution (entry : Entry) : Bool := entry.fact.isOfExecution

/-- The action that a run has at hand. -/
def Activity.action? : Activity → Option Action
  | .ready => none
  | .waiting line milliseconds _ => some (.delay line milliseconds)
  | .calling action => some action
  | .returned action _ => some action

/-- Whether an action is a wait. -/
def Script.Action.isDelay : Action → Bool
  | .delay _ _ => true
  | _ => false

/-- What has been written of the execution at hand. -/
inductive Activity.Written (id : RunId) (ofCleanUp : Bool) : Activity → List Entry → Prop
  | ready : Written id ofCleanUp .ready []
  | waiting (line milliseconds start : Nat) :
      Written id ofCleanUp
        (.waiting line milliseconds (start + min milliseconds Server.longestWait))
        [⟨start, .began ⟨id, ofCleanUp, .delay line milliseconds⟩⟩]
  | calling {action : Action} (start : Nat) (hno : action.isDelay = false) :
      Written id ofCleanUp (.calling action) [⟨start, .began ⟨id, ofCleanUp, action⟩⟩]
  | returned {action : Action} {call : Option Call} {error : Option StepError}
      (start time : Nat) (hno : action.isDelay = false)
      (hmakes : Work.Makes ⟨id, ofCleanUp, action⟩ call error) :
      Written id ofCleanUp (.returned action error)
        (⟨start, .began ⟨id, ofCleanUp, action⟩⟩ ::
          call.toList.map fun c => ⟨time, .called (some ⟨id, ofCleanUp, action⟩) c⟩)

namespace Run

variable (id : RunId) (run : Run)

/-- The actions of a run that have begun, in their order. -/
def works : List Work :=
  (run.body.take run.begun).map (Work.mk id false)
    ++ (run.cleanUp.take run.cleaned).map (Work.mk id true)

/-- The action that a run has at hand, as a part of its work. -/
def atHand : List Work :=
  run.activity.action?.toList.map (Work.mk id run.isCleaning)

/-- What a run has done: executions, one after the other, and possibly one at hand. -/
structure Logged (history : List Entry) (done : List Execution) (atHand : List Entry) :
    Prop where
  isProper : ∀ x ∈ done, x.IsProper
  written : run.activity.Written id run.isCleaning atHand
  filter_eq : history.filter (·.isOfExecution) = done.flatMap (·.entries) ++ atHand
  works_eq : done.map (·.work) ++ run.atHand id = run.works id

/-- How far a run has come: there is no clean-up before the body has been left, a run that
nobody has stopped has drained its body before it cleans up, and an ended run has nothing left
to do. -/
structure Counted : Prop where
  begun_le : run.begun ≤ run.body.length
  cleaned_le : run.cleaned ≤ run.cleanUp.length
  cleaned_eq : ∀ stopping, run.phase = .draining stopping → run.cleaned = 0
  begun_eq : run.phase = .cleaning false ∨ run.phase = .ended false →
    run.begun = run.body.length
  ended : ∀ cancelled, run.phase = .ended cancelled →
    run.cleaned = run.cleanUp.length ∧ run.activity = .ready

variable {id run} {history : List Entry}

theorem Lived.counted (h : Lived id run history) :
  run.Counted
  := by
  induction h with
  | launched key body cleanUp time => constructor <;> simp
  | @next run run' history now facts _ hnext htime ih =>
    cases hnext with
    | beginBody hphase hready hnext =>
      have hlt := (List.getElem?_eq_some_iff.mp hnext).1
      constructor
      · apply hlt
      · apply ih.cleaned_le
      · apply ih.cleaned_eq
      · simp [hphase]
      · simp [hphase]
    | beginCleanUp hphase hready hnext =>
      have hlt := (List.getElem?_eq_some_iff.mp hnext).1
      constructor
      · apply ih.begun_le
      · apply hlt
      · simp [hphase]
      · apply ih.begun_eq
      · simp [hphase]
    | call hcalling hmakes =>
      refine ⟨ih.begun_le, ih.cleaned_le, ih.cleaned_eq, ih.begun_eq, ?_⟩
      intro cancelled hphase
      simp [(ih.ended cancelled hphase).2] at hcalling
    | takeUp hreturned =>
      refine ⟨ih.begun_le, ih.cleaned_le, ih.cleaned_eq, ih.begun_eq, ?_⟩
      intro cancelled hphase
      exact ⟨(ih.ended cancelled hphase).1, rfl⟩
    | wake hwaiting hdue =>
      refine ⟨ih.begun_le, ih.cleaned_le, ih.cleaned_eq, ih.begun_eq, ?_⟩
      intro cancelled hphase
      exact ⟨(ih.ended cancelled hphase).1, rfl⟩
    | stop ticket hphase =>
      refine ⟨ih.begun_le, ih.cleaned_le, fun _ _ => ih.cleaned_eq false hphase, ?_, ?_⟩
      · simp
      · simp
    | drain hphase hready hnext =>
      have hle := List.getElem?_eq_none_iff.mp hnext
      refine ⟨ih.begun_le, ih.cleaned_le, ?_, ?_, ?_⟩
      · simp
      · intro _
        apply Nat.le_antisymm ih.begun_le hle
      · simp
    | leave hphase hready =>
      refine ⟨ih.begun_le, ih.cleaned_le, ?_, ?_, ?_⟩ <;> simp
    | finish hphase hready hnext =>
      have hle := List.getElem?_eq_none_iff.mp hnext
      refine ⟨ih.begun_le, ih.cleaned_le, ?_, ?_, ?_⟩
      · simp
      · intro hfalse
        apply ih.begun_eq
        simp only [reduceCtorEq, Phase.ended.injEq, false_or] at hfalse
        rw [hphase, hfalse]
        simp
      · intro _ _
        exact ⟨Nat.le_antisymm ih.cleaned_le hle, hready⟩

/-! ### The log of a run -/

/-- Between two actions there is no execution at hand. -/
theorem Logged.atHand_eq_nil {done : List Execution} {atHand : List Entry}
    (h : run.Logged id history done atHand) (hready : run.activity = .ready) :
  atHand = []
  := by
  have hwritten := h.written
  rw [hready] at hwritten
  cases hwritten
  rfl

/-- What changes neither the activity nor the work of a run, and tells of no execution, leaves
its log as it is. -/
theorem Logged.congr {run' : Run} {done : List Execution} {atHand : List Entry}
    {later : List Entry} (h : run.Logged id history done atHand)
    (hactivity : run'.activity = run.activity)
    (hcleaning : run.activity = .ready ∨ run'.isCleaning = run.isCleaning)
    (hworks : run'.works id = run.works id)
    (hlater : later.filter (·.isOfExecution) = []) :
  run'.Logged id (history ++ later) done atHand
  := by
  have hwritten : run'.activity.Written id run'.isCleaning atHand := by
    rw [hactivity]
    rcases hcleaning with hready | hcleaning
    · rw [h.atHand_eq_nil hready, hready]
      exact .ready
    · rw [hcleaning]
      apply h.written
  have hatHand : run'.atHand id = run.atHand id := by
    rw [Run.atHand, Run.atHand, hactivity]
    rcases hcleaning with hready | hcleaning
    · simp [hready, Activity.action?]
    · rw [hcleaning]
  refine ⟨h.isProper, hwritten, ?_, ?_⟩
  · rw [List.filter_append, h.filter_eq, hlater, List.append_nil]
  · rw [hatHand, hworks, h.works_eq]

/-- An execution is over. -/
theorem Logged.concat {run' : Run} {done : List Execution} {atHand later : List Entry}
    {x : Execution} (h : run.Logged id history done atHand) (hx : x.IsProper)
    (hentries : atHand ++ later.filter (·.isOfExecution) = x.entries)
    (hready : run'.activity = .ready) (hworks : done.map (·.work) ++ [x.work] = run'.works id) :
  run'.Logged id (history ++ later) (done ++ [x]) []
  := by
  constructor
  · intro y hy
    rcases List.mem_append.mp hy with hy | hy
    · apply h.isProper y hy
    · rw [List.mem_singleton.mp hy]
      apply hx
  · rw [hready]
    exact .ready
  · rw [List.filter_append, h.filter_eq, List.append_assoc, hentries, List.flatMap_append,
      List.append_nil]
    simp
  · rw [Run.atHand, hready, List.map_append]
    simpa [Activity.action?] using hworks

/-- A wait of no time is over as it begins, and every other action is at hand then. -/
theorem Logged.begin {run' : Run} {done : List Execution} {atHand : List Entry} {now : Nat}
    {action : Action} (h : run.Logged id history done atHand)
    (hready : run.activity = .ready) (hactivity : run'.activity = .of now action) {work : Work}
    (hwork : ⟨id, run'.isCleaning, action⟩ = work)
    (hworks : run'.works id = run.works id ++ [work]) :
  ∃ done' atHand', run'.Logged id
    (history ++ (Fact.began work :: work.atOnce).map (Entry.mk now)) done' atHand'
  := by
  obtain rfl := h.atHand_eq_nil hready
  have hdone : done.map (·.work) = run.works id := by
    rw [← h.works_eq, Run.atHand, hready]
    simp [Activity.action?]
  have hlater : run'.activity.Written id run'.isCleaning [⟨now, .began work⟩] →
      run'.activity.action? = some action → work.atOnce = [] →
      run'.Logged id (history ++ (Fact.began work :: work.atOnce).map (Entry.mk now)) done
        [⟨now, .began work⟩] := by
    intro hwritten haction hatOnce
    refine ⟨h.isProper, hwritten, ?_, ?_⟩
    · rw [List.filter_append, h.filter_eq, List.append_nil, hatOnce]
      simp [Entry.isOfExecution, Fact.isOfExecution]
    · rw [hworks, hdone, Run.atHand, haction]
      simp [hwork]
  cases action with
  | delay line milliseconds =>
    cases milliseconds with
    | zero =>
      subst hwork
      use done ++ [⟨⟨id, run'.isCleaning, .delay line 0⟩, now, none, now, now, none⟩], []
      apply h.concat
      · refine ⟨.delay rfl, ?_⟩
        intro line' milliseconds' hdelay hcleanUp
        cases hdelay
        simp
      · rfl
      · rw [hactivity]
        rfl
      · rw [hdone, hworks]
    | succ n =>
      use done, [⟨now, .began work⟩]
      apply hlater
      · rw [hactivity, ← hwork]
        exact .waiting line (n + 1) now
      · rw [hactivity]
        rfl
      · rw [← hwork]
        rfl
  | _ =>
    use done, [⟨now, .began work⟩]
    apply hlater
    · rw [hactivity, ← hwork]
      exact .calling now rfl
    · rw [hactivity]
      rfl
    · rw [← hwork]
      rfl

/-- A handler is called. -/
theorem Logged.call {done : List Execution} {atHand : List Entry} {now : Nat} {action : Action}
    {call : Option Call} {error : Option StepError} (h : run.Logged id history done atHand)
    (hcalling : run.activity = .calling action)
    (hmakes : Work.Makes ⟨id, run.isCleaning, action⟩ call error) :
  ∃ done' atHand', ({ run with activity := .returned action error } : Run).Logged id
    (history ++ (call.toList.map (.called (some ⟨id, run.isCleaning, action⟩))).map
      (Entry.mk now)) done' atHand'
  := by
  obtain ⟨hproper, hwritten, hfilter, hworks⟩ := h
  rw [hcalling] at hwritten
  rw [Run.atHand, hcalling] at hworks
  cases hwritten with
  | calling start hno =>
    use done, ⟨start, .began ⟨id, run.isCleaning, action⟩⟩ ::
      call.toList.map fun c => ⟨now, .called (some ⟨id, run.isCleaning, action⟩) c⟩
    refine ⟨hproper, .returned start now hno hmakes, ?_, hworks⟩
    rw [List.filter_append, hfilter]
    cases call <;> simp [isCleaning, Entry.isOfExecution, Fact.isOfExecution]

/-- A run takes up what came of a call. -/
theorem Logged.takeUp {done : List Execution} {atHand : List Entry} {now : Nat}
    {action : Action} {error : Option StepError} (h : run.Logged id history done atHand)
    (hreturned : run.activity = .returned action error) :
  ∃ done' atHand', ({ run with activity := .ready } : Run).Logged id
    (history ++ (Fact.over ⟨id, run.isCleaning, action⟩ error ::
      run.failure id action.line error).map (Entry.mk now)) done' atHand'
  := by
  have hwritten := h.written
  have hworks := h.works_eq
  rw [hreturned] at hwritten
  rw [Run.atHand, hreturned] at hworks
  cases hwritten with
  | @returned _ call _ start time hno hmakes =>
    use done ++ [⟨⟨id, run.isCleaning, action⟩, start, call, time, now, error⟩], []
    apply h.concat
    · refine ⟨hmakes, ?_⟩
      rintro line milliseconds rfl
      cases hno
    · have hfailure : ((run.failure id action.line error).map (Entry.mk now)).filter
          (·.isOfExecution) = [] := by
        rw [failure]
        split
        · cases error <;> rfl
        · rfl
      rw [List.map_cons, List.filter_cons_of_pos rfl, hfailure]
      rfl
    · rfl
    · apply hworks

/-- A wait is over. One of the clean-up has lasted to its deadline, as no stop cuts it
short. -/
theorem Logged.wake {done : List Execution} {atHand : List Entry} {now line milliseconds : Nat}
    {deadline : Nat} (h : run.Logged id history done atHand)
    (hwaiting : run.activity = .waiting line milliseconds deadline)
    (hdue : run.phase = .draining true ∨ deadline ≤ now) :
  ∃ done' atHand', ({ run with activity := .ready } : Run).Logged id
    (history ++ [Fact.over ⟨id, run.isCleaning, .delay line milliseconds⟩ none].map
      (Entry.mk now)) done' atHand'
  := by
  have hwritten := h.written
  have hworks := h.works_eq
  rw [hwaiting] at hwritten
  rw [Run.atHand, hwaiting] at hworks
  cases hwritten with
  | waiting line milliseconds start =>
    use done ++ [⟨⟨id, run.isCleaning, .delay line milliseconds⟩, start, none, start, now,
      none⟩], []
    apply h.concat
    · refine ⟨.delay rfl, ?_⟩
      intro line' milliseconds' haction hcleanUp
      cases haction
      apply hdue.resolve_left
      intro hphase
      simp [isCleaning, hphase] at hcleanUp
    · rfl
    · rfl
    · apply hworks

/-- A run has done one execution after the other, whatever has come about in it. -/
theorem Lived.logged (h : Lived id run history) :
  ∃ done atHand, run.Logged id history done atHand
  := by
  induction h with
  | launched key body cleanUp time =>
    use [], []
    exact ⟨by simp, .ready, rfl, rfl⟩
  | @next run run' history now facts hlived hnext htime ih =>
    obtain ⟨done, atHand, hlogged⟩ := ih
    cases hnext with
    | @beginBody action hphase hready hnext =>
      apply hlogged.begin hready
      · rfl
      · simp [isCleaning, hphase]
      · have hcleaned := hlived.counted.cleaned_eq false hphase
        have hbody : run.body[run.begun]? = some action := hnext
        simp [works, hcleaned, List.take_add_one, hbody]
    | @beginCleanUp action cancelled hphase hready hnext =>
      apply hlogged.begin hready
      · rfl
      · simp [isCleaning, hphase]
      · have hcleanUp : run.cleanUp[run.cleaned]? = some action := hnext
        simp [works, List.take_add_one, hcleanUp]
    | call hcalling hmakes => apply hlogged.call hcalling hmakes
    | takeUp hreturned => apply hlogged.takeUp hreturned
    | wake hwaiting hdue => apply hlogged.wake hwaiting hdue
    | stop ticket hphase =>
      use done, atHand
      exact hlogged.congr rfl (.inr (by simp [isCleaning, hphase])) rfl rfl
    | drain hphase hready hnext =>
      use done, atHand
      exact hlogged.congr rfl (.inl hready) rfl rfl
    | leave hphase hready =>
      use done, atHand
      exact hlogged.congr rfl (.inl hready) rfl rfl
    | finish hphase hready hnext =>
      use done, atHand
      exact hlogged.congr rfl (.inl hready) rfl rfl

end Run

end CommandTimelines
