import CommandTimelines.Proofs.CleanUp

/-!
# The pace of a run

What a run has done so far tells what time it is, if nothing keeps it from going on. Until its end
is claimed the clock shows the start of the run plus the waits that have begun since; from the
claim on, the time of the claim plus the waits of the clean-up that have begun since
(`Run.OnTime`). Only waits take time: an action that calls a handler begins and is over at one
instant, and so does a wait of no time. A stop cuts the wait at hand short, and the clean-up begins
at the very instant of the claim.

`Run.OnTime.next` says that no step of a run breaks this, and `Run.OnTime.pass` that no time does
that passes while the run waits.
-/

namespace CommandTimelines

open Script

/-! ### Waits -/

/-- How long an action holds up the run: as long as it says, if it is a wait, but no longer than
any wait lasts. -/
def Script.Action.lasting : Action → Nat
  | .delay _ milliseconds => min milliseconds Server.longestWait
  | _ => 0

/-- How long actions hold up the run one after the other. -/
def waits (actions : List Action) : Nat := (actions.map (·.lasting)).sum

/-- Actions and the instants at which they begin, one after the other from a time on. -/
def schedule (time : Nat) : List Action → List (Nat × Action)
  | [] => []
  | action :: rest => (time, action) :: schedule (time + action.lasting) rest

@[simp]
theorem waits_nil :
  waits [] = 0
  := rfl

theorem waits_concat (actions : List Action) (action : Action) :
  waits (actions ++ [action]) = waits actions + action.lasting
  := by
  simp [waits]

theorem waits_append (actions more : List Action) :
  waits (actions ++ more) = waits actions + waits more
  := by
  simp [waits]

theorem waits_take_le (actions : List Action) {m n : Nat} (h : m ≤ n) :
  waits (actions.take m) ≤ waits (actions.take n)
  := by
  obtain ⟨k, rfl⟩ := Nat.exists_eq_add_of_le h
  rw [List.take_add, waits_append]
  apply Nat.le_add_right

theorem schedule_concat (actions : List Action) (action : Action) :
  ∀ time, schedule time (actions ++ [action])
    = schedule time actions ++ [(time + waits actions, action)]
  := by
  induction actions with
  | nil =>
    intro time
    rfl
  | cons first rest ih =>
    intro time
    rw [List.cons_append, schedule, ih, schedule, List.cons_append, Nat.add_assoc]
    rfl

@[simp]
theorem length_schedule (actions : List Action) :
  ∀ time, (schedule time actions).length = actions.length
  := by
  induction actions with
  | nil =>
    intro time
    rfl
  | cons first rest ih =>
    intro time
    rw [schedule, List.length_cons, ih, List.length_cons]

/-- An action begins when those before it have held up the run. -/
theorem getElem?_schedule (actions : List Action) :
  ∀ time k, (schedule time actions)[k]?
    = actions[k]?.map fun action => (time + waits (actions.take k), action)
  := by
  induction actions with
  | nil =>
    intro time k
    rfl
  | cons first rest ih =>
    intro time k
    cases k with
    | zero => rfl
    | succ k =>
      rw [schedule, List.getElem?_cons_succ, List.getElem?_cons_succ, ih]
      simp [waits, Nat.add_assoc]

/-! ### Beginnings -/

/-- The beginning of an action that an entry tells of, of the body of a run or of its clean-up. -/
def Entry.beginning? (ofCleanUp : Bool) (entry : Entry) : Option (Nat × Action) :=
  match entry.fact with
  | .began work => if work.ofCleanUp = ofCleanUp then some (entry.time, work.action) else none
  | _ => none

/-- The actions that entries say have begun, of the body of a run or of its clean-up, and when. -/
def Entry.beginnings (ofCleanUp : Bool) (entries : List Entry) : List (Nat × Action) :=
  entries.filterMap (·.beginning? ofCleanUp)

theorem Entry.beginnings_append (ofCleanUp : Bool) (entries later : List Entry) :
  beginnings ofCleanUp (entries ++ later)
    = beginnings ofCleanUp entries ++ beginnings ofCleanUp later
  := List.filterMap_append

theorem Entry.map_snd_beginnings (ofCleanUp : Bool) (entries : List Entry) :
  (beginnings ofCleanUp entries).map (·.2) = begun ofCleanUp entries
  := by
  rw [beginnings, begun, List.map_filterMap, List.filter_filterMap, List.map_filterMap]
  apply List.filterMap_congr
  intro entry _
  obtain ⟨time, fact⟩ := entry
  cases fact with
  | began work => by_cases h : work.ofCleanUp = ofCleanUp <;> simp [beginning?, began?, h]
  | _ => rfl

/-- What an action that begins adds to the beginnings. -/
theorem Entry.beginnings_began (ofCleanUp : Bool) (work : Work) (now : Nat) :
  beginnings ofCleanUp ((Fact.began work :: work.atOnce).map (Entry.mk now))
    = if work.ofCleanUp = ofCleanUp then [(now, work.action)] else []
  := by
  have hatOnce : beginnings ofCleanUp (work.atOnce.map (Entry.mk now)) = [] := by
    rw [Work.atOnce]
    split <;> rfl
  rw [List.map_cons, ← List.singleton_append, beginnings_append, hatOnce, List.append_nil]
  by_cases h : work.ofCleanUp = ofCleanUp <;> simp [beginnings, beginning?, h]

/-- Whether a fact is the beginning of an action, or the claim of an end, or an end. -/
def Fact.isMark : Fact → Bool
  | .began _ => true
  | .claimed _ _ => true
  | .published _ (.finished _ _) => true
  | _ => false

theorem Entry.beginnings_of_not_mark {facts : List Fact}
    (h : ∀ fact ∈ facts, fact.isMark = false) (ofCleanUp : Bool) (now : Nat) :
  beginnings ofCleanUp (facts.map (Entry.mk now)) = []
  := by
  apply List.filterMap_eq_nil_iff.mpr
  intro entry hentry
  obtain ⟨fact, hfact, rfl⟩ := List.mem_map.mp hentry
  have hmark := h fact hfact
  cases fact with
  | began work => cases hmark
  | _ => rfl

/-- An entry that is not among those added was there before. -/
theorem Entry.mem_of_mem_append {history : List Entry} {facts : List Fact} {now time : Nat}
    {fact : Fact} (h : ⟨time, fact⟩ ∈ history ++ facts.map (Entry.mk now)) (hfact : fact ∉ facts) :
  ⟨time, fact⟩ ∈ history
  := by
  rcases List.mem_append.mp h with h | h
  · exact h
  · obtain ⟨fact', hfact', heq⟩ := List.mem_map.mp h
    obtain ⟨-, rfl⟩ := Entry.mk.inj heq
    exact absurd hfact' hfact

/-- What comes about as an action begins is its beginning, or that it is over. -/
theorem Work.not_mem_began {work : Work} {fact : Fact} (hbegan : fact ≠ .began work)
    (hover : fact ≠ .over work none) :
  fact ∉ .began work :: work.atOnce
  := by
  intro hmem
  rcases List.mem_cons.mp hmem with heq | hmem
  · exact hbegan heq
  · exact hover (Work.eq_of_mem_atOnce hmem)

/-! ### The pace of a run -/

/-- Whether a run that has begun some actions is neither early nor late, if these hold it up until
the instant `due`: it waits for that instant, or it is there. -/
def Activity.IsDue (now due : Nat) : Activity → Prop
  | .waiting _ _ deadline => deadline = due ∧ now ≤ due
  | _ => now = due

/-- What a run does after an action has begun is over when the action has held it up. -/
theorem Activity.isDue_of (now : Nat) (action : Action) :
  (Activity.of now action).IsDue now (now + action.lasting)
  := by
  cases action with
  | delay line milliseconds =>
    cases milliseconds with
    | zero => simp [Activity.of, IsDue, Action.lasting]
    | succ n => exact ⟨rfl, Nat.le_add_right _ _⟩
  | invoke line name command raw silent args => rfl
  | deliver line key raw args => rfl

namespace Run

/-- A run whose end was claimed at a time is on time after that: the clean-up begins at that very
time, and each of its actions when those before it have held it up. -/
structure ClosesOnTime (id : RunId) (run : Run) (history : List Entry) (now time : Nat) :
    Prop where
  cleanUp_eq : Entry.beginnings true history = schedule time (run.cleanUp.take run.cleaned)
  /-- A run that was stopped leaves its body at once. -/
  leaving : run.phase = .draining true → now = time
  cleaning : ∀ cancelled, run.phase = .cleaning cancelled →
    run.activity.IsDue now (time + waits (run.cleanUp.take run.cleaned))
  finished : ∀ t cancelled, ⟨t, .published id (.finished run.key cancelled)⟩ ∈ history →
    t = time + waits run.cleanUp

/-- A run that was started at a time is on time: each action of its body has begun when those
before it had held it up, and so has the clean-up unless a stop has claimed its end before. -/
structure OnTime (id : RunId) (run : Run) (history : List Entry) (now start : Nat) : Prop where
  body_eq : Entry.beginnings false history = schedule start (run.body.take run.begun)
  draining : run.phase = .draining false →
    run.activity.IsDue now (start + waits (run.body.take run.begun))
  own : ∀ time, ⟨time, .claimed id none⟩ ∈ history → time = start + waits run.body
  claimed : ∀ time stop, ⟨time, .claimed id stop⟩ ∈ history →
    run.ClosesOnTime id history now time

variable {id : RunId} {run run' : Run} {history : List Entry} {now start : Nat}

/-- There is no claim of the end of a run whose body is drained and that no stop has come for. -/
theorem Lived.claimed_not_mem (h : Lived id run history) (hphase : run.phase = .draining false)
    (time : Nat) (stop : Option Ticket) :
  ⟨time, .claimed id stop⟩ ∉ history
  := by
  intro hmem
  cases h.claim?_eq_none hphase _ hmem

/-- A run that has not ended has no end in its history. -/
theorem Lived.finished_not_mem (h : Lived id run history) (hphase : run.phase.ends = [])
    (time : Nat) (key : String) (cancelled : Bool) :
  ⟨time, .published id (.finished key cancelled)⟩ ∉ history
  := by
  intro hmem
  have hends : cancelled ∈ Entry.ends history :=
    List.mem_filterMap.mpr ⟨_, List.mem_map_of_mem hmem, rfl⟩
  rw [h.ends_eq, hphase] at hends
  cases hends

/-- Nothing of the clean-up begins while the body is drained. -/
theorem Lived.beginnings_of_draining (h : Lived id run history) {stopping : Bool}
    (hphase : run.phase = .draining stopping) :
  Entry.beginnings true history = []
  := by
  have hbegun := h.cleaned_eq
  rw [h.counted.cleaned_eq stopping hphase, List.take_zero, ← Entry.map_snd_beginnings] at hbegun
  exact List.map_eq_nil_iff.mp hbegun

/-- What marks neither a beginning nor an end leaves a run on time, if it is where it should be
afterwards. -/
theorem OnTime.goOn (h : run.OnTime id history now start) {activity : Activity}
    (hdue : run.phase ≠ .draining true → ∀ due, run.activity.IsDue now due →
      activity.IsDue now due)
    {facts : List Fact} (hfacts : ∀ fact ∈ facts, fact.isMark = false) :
  ({ run with activity } : Run).OnTime id (history ++ facts.map (Entry.mk now)) now start
  := by
  have hnot : ∀ {fact}, fact.isMark = true → fact ∉ facts := by
    intro fact hmark hmem
    rw [hfacts fact hmem] at hmark
    cases hmark
  have hbeginnings : ∀ c, Entry.beginnings c (history ++ facts.map (Entry.mk now))
      = Entry.beginnings c history := by
    intro c
    rw [Entry.beginnings_append, Entry.beginnings_of_not_mark hfacts, List.append_nil]
  constructor
  · rw [hbeginnings, h.body_eq]
  · intro hphase
    apply hdue _ _ (h.draining hphase)
    rw [show run.phase = .draining false from hphase]
    simp
  · intro time hmem
    exact h.own time (Entry.mem_of_mem_append hmem (hnot rfl))
  · intro time stop hmem
    have hclaimed := h.claimed time stop (Entry.mem_of_mem_append hmem (hnot rfl))
    constructor
    · rw [hbeginnings, hclaimed.cleanUp_eq]
    · exact hclaimed.leaving
    · intro cancelled hphase
      apply hdue _ _ (hclaimed.cleaning cancelled hphase)
      rw [show run.phase = .cleaning cancelled from hphase]
      simp
    · intro t cancelled hfinished
      exact hclaimed.finished t cancelled (Entry.mem_of_mem_append hfinished (hnot rfl))

/-- The next action of the body begins when those before it have held the run up. -/
theorem OnTime.beginBody (h : run.OnTime id history now start) (hlived : Lived id run history)
    {action : Action} (hphase : run.phase = .draining false) (hready : run.activity = .ready)
    (hnext : run.nextOfBody? = some action) :
  ({ run with begun := run.begun + 1, activity := .of now action } : Run).OnTime id
    (history ++ (Fact.began ⟨id, false, action⟩ :: Work.atOnce ⟨id, false, action⟩).map
      (Entry.mk now)) now start
  := by
  have hdue := h.draining hphase
  rw [hready] at hdue
  have hnow : now = start + waits (run.body.take run.begun) := hdue
  have hbody : run.body[run.begun]? = some action := hnext
  have htake : run.body.take (run.begun + 1) = run.body.take run.begun ++ [action] := by
    rw [List.take_add_one, hbody]
    rfl
  have hunclaimed : ∀ time stop, (⟨time, .claimed id stop⟩ : Entry)
      ∉ history ++ (Fact.began ⟨id, false, action⟩ :: Work.atOnce ⟨id, false, action⟩).map
        (Entry.mk now) := by
    intro time stop hmem
    apply hlived.claimed_not_mem hphase time stop
    exact Entry.mem_of_mem_append hmem (Work.not_mem_began (by simp) (by simp))
  constructor
  · rw [Entry.beginnings_append, h.body_eq, Entry.beginnings_began, if_pos rfl]
    simp only [htake]
    rw [schedule_concat, ← hnow]
  · intro _
    simp only [htake]
    rw [waits_concat, ← Nat.add_assoc, ← hnow]
    apply Activity.isDue_of
  · intro time hmem
    exact absurd hmem (hunclaimed time none)
  · intro time stop hmem
    exact absurd hmem (hunclaimed time stop)

/-- The next action of the clean-up begins when those before it have held the run up. -/
theorem OnTime.beginCleanUp (h : run.OnTime id history now start) {action : Action}
    {cancelled : Bool} (hphase : run.phase = .cleaning cancelled) (hready : run.activity = .ready)
    (hnext : run.nextOfCleanUp? = some action) :
  ({ run with cleaned := run.cleaned + 1, activity := .of now action } : Run).OnTime id
    (history ++ (Fact.began ⟨id, true, action⟩ :: Work.atOnce ⟨id, true, action⟩).map
      (Entry.mk now)) now start
  := by
  have hcleanUp : run.cleanUp[run.cleaned]? = some action := hnext
  have htake : run.cleanUp.take (run.cleaned + 1) = run.cleanUp.take run.cleaned ++ [action] := by
    rw [List.take_add_one, hcleanUp]
    rfl
  have hold : ∀ {time fact}, (⟨time, fact⟩ : Entry)
      ∈ history ++ (Fact.began ⟨id, true, action⟩ :: Work.atOnce ⟨id, true, action⟩).map
        (Entry.mk now) →
      fact ≠ .began ⟨id, true, action⟩ → fact ≠ .over ⟨id, true, action⟩ none →
      (⟨time, fact⟩ : Entry) ∈ history := by
    intro time fact hmem hbegan hover
    exact Entry.mem_of_mem_append hmem (Work.not_mem_began hbegan hover)
  constructor
  · rw [Entry.beginnings_append, h.body_eq, Entry.beginnings_began, if_neg (by simp),
      List.append_nil]
  · intro hdraining
    rw [show run.phase = .draining false from hdraining] at hphase
    cases hphase
  · intro time hmem
    exact h.own time (hold hmem (by simp) (by simp))
  · intro time stop hmem
    have hclaimed := h.claimed time stop (hold hmem (by simp) (by simp))
    have hdue := hclaimed.cleaning cancelled hphase
    rw [hready] at hdue
    have hnow : now = time + waits (run.cleanUp.take run.cleaned) := hdue
    constructor
    · rw [Entry.beginnings_append, hclaimed.cleanUp_eq, Entry.beginnings_began, if_pos rfl]
      simp only [htake]
      rw [schedule_concat, ← hnow]
    · exact hclaimed.leaving
    · intro _ _
      simp only [htake]
      rw [waits_concat, ← Nat.add_assoc, ← hnow]
      apply Activity.isDue_of
    · intro t cancelled hfinished
      exact hclaimed.finished t cancelled (hold hfinished (by simp) (by simp))

/-- The end of a run is claimed, and all that was on time until then closes on time. -/
theorem OnTime.claim (h : run.OnTime id history now start) (hlived : Lived id run history)
    (hphase : run.phase = .draining false) {stop : Option Ticket} {phase : Phase}
    (hown : stop = none → now = start + waits run.body) (hended : phase ≠ .draining false)
    (hready : (∃ cancelled, phase = .cleaning cancelled) → run.activity = .ready) :
  ({ run with phase } : Run).OnTime id (history ++ [.claimed id stop].map (Entry.mk now)) now start
  := by
  have hbeginnings : ∀ c, Entry.beginnings c (history ++ [.claimed id stop].map (Entry.mk now))
      = Entry.beginnings c history := by
    intro c
    rw [Entry.beginnings_append]
    exact List.append_nil _
  have hclaim : ∀ time other, ⟨time, .claimed id other⟩
      ∈ history ++ [.claimed id stop].map (Entry.mk now) → time = now ∧ other = stop := by
    intro time other hmem
    rcases List.mem_append.mp hmem with hmem | hmem
    · exact absurd hmem (hlived.claimed_not_mem hphase time other)
    · simpa using hmem
  constructor
  · rw [hbeginnings, h.body_eq]
  · intro hdraining
    exact absurd hdraining hended
  · intro time hmem
    obtain ⟨rfl, hstop⟩ := hclaim time none hmem
    exact hown hstop.symm
  · intro time other hmem
    obtain ⟨rfl, -⟩ := hclaim time other hmem
    have hcleaned : run.cleaned = 0 := hlived.counted.cleaned_eq false hphase
    constructor
    · rw [hbeginnings, hlived.beginnings_of_draining hphase]
      simp [hcleaned, schedule]
    · intro _
      rfl
    · intro cancelled hcleaning
      simp only [hready ⟨cancelled, hcleaning⟩, hcleaned]
      rfl
    · intro t cancelled hfinished
      have hold := Entry.mem_of_mem_append hfinished (by simp)
      exact absurd hold (hlived.finished_not_mem (by rw [hphase]; rfl) t _ cancelled)

/-- A run that was stopped turns to its clean-up at the time of the claim. -/
theorem OnTime.leave (h : run.OnTime id history now start) (hlived : Lived id run history)
    (hphase : run.phase = .draining true) (hready : run.activity = .ready) :
  ({ run with phase := .cleaning true } : Run).OnTime id history now start
  := by
  constructor
  · exact h.body_eq
  · rintro ⟨⟩
  · exact h.own
  · intro time stop hmem
    have hclaimed := h.claimed time stop hmem
    constructor
    · exact hclaimed.cleanUp_eq
    · rintro ⟨⟩
    · intro cancelled _
      simp only [hready, hlived.counted.cleaned_eq true hphase]
      exact hclaimed.leaving hphase
    · exact hclaimed.finished

/-- A run ends when its whole clean-up has held it up. -/
theorem OnTime.finish (h : run.OnTime id history now start) {cancelled : Bool}
    (hphase : run.phase = .cleaning cancelled) (hready : run.activity = .ready)
    (hnext : run.nextOfCleanUp? = none) :
  ({ run with phase := .ended cancelled } : Run).OnTime id
    (history ++ [.published id (.finished run.key cancelled)].map (Entry.mk now)) now start
  := by
  have hall : run.cleanUp.take run.cleaned = run.cleanUp :=
    List.take_of_length_le (List.getElem?_eq_none_iff.mp hnext)
  have hbeginnings : ∀ c, Entry.beginnings c
      (history ++ [.published id (.finished run.key cancelled)].map (Entry.mk now))
      = Entry.beginnings c history := by
    intro c
    rw [Entry.beginnings_append]
    exact List.append_nil _
  constructor
  · rw [hbeginnings, h.body_eq]
  · rintro ⟨⟩
  · intro time hmem
    exact h.own time (Entry.mem_of_mem_append hmem (by simp))
  · intro time stop hmem
    have hclaimed := h.claimed time stop (Entry.mem_of_mem_append hmem (by simp))
    constructor
    · rw [hbeginnings, hclaimed.cleanUp_eq]
    · rintro ⟨⟩
    · rintro _ ⟨⟩
    · intro t other hfinished
      rcases List.mem_append.mp hfinished with hfinished | hfinished
      · exact hclaimed.finished t other hfinished
      · have hdue := hclaimed.cleaning cancelled hphase
        rw [hready, hall] at hdue
        have hnow : now = time + waits run.cleanUp := hdue
        simp only [List.map_cons, List.map_nil, List.mem_singleton, Entry.mk.injEq] at hfinished
        rw [hfinished.1, hnow]

/-- Whatever step a run takes, it stays on time. -/
theorem OnTime.next (h : run.OnTime id history now start) (hlived : Lived id run history)
    {facts : List Fact} (hnext : Next id now run facts run') :
  run'.OnTime id (history ++ facts.map (Entry.mk now)) now start
  := by
  cases hnext with
  | beginBody hphase hready hnext => exact h.beginBody hlived hphase hready hnext
  | beginCleanUp hphase hready hnext => exact h.beginCleanUp hphase hready hnext
  | call hcalling hmakes =>
    apply h.goOn
    · intro _ due hdue
      rw [hcalling] at hdue
      exact hdue
    · intro fact hfact
      obtain ⟨call, -, rfl⟩ := List.mem_map.mp hfact
      rfl
  | takeUp hreturned =>
    apply h.goOn
    · intro _ due hdue
      rw [hreturned] at hdue
      exact hdue
    · intro fact hfact
      rcases List.mem_cons.mp hfact with rfl | hfact
      · rfl
      · rw [failure] at hfact
        split at hfact
        · obtain ⟨e, -, rfl⟩ := List.mem_map.mp hfact
          rfl
        · cases hfact
  | wake hwaiting hover =>
    apply h.goOn
    · intro hphase due hdue
      rw [hwaiting] at hdue
      obtain ⟨rfl, hle⟩ := hdue
      exact Nat.le_antisymm hle (hover.resolve_left hphase)
    · intro fact hfact
      rw [List.mem_singleton.mp hfact]
      rfl
  | stop ticket hphase =>
    apply h.claim hlived hphase
    · rintro ⟨⟩
    · simp
    · rintro ⟨cancelled, ⟨⟩⟩
  | drain hphase hready hnext =>
    apply h.claim hlived hphase
    · intro _
      have hdue := h.draining hphase
      rw [hready, List.take_of_length_le (List.getElem?_eq_none_iff.mp hnext)] at hdue
      exact hdue
    · simp
    · intro _
      exact hready
  | leave hphase hready =>
    rw [List.map_nil, List.append_nil]
    exact h.leave hlived hphase hready
  | finish hphase hready hnext => exact h.finish hphase hready hnext

/-- A run that has just been launched is on time. -/
theorem onTime_launched (id : RunId) (key : String) (body cleanUp : List Action) (now : Nat) :
  ({ key, body, cleanUp } : Run).OnTime id [⟨now, .published id (.started key body.length)⟩] now
    now
  := by
  constructor
  · rfl
  · intro _
    rfl
  · intro time hmem
    simp at hmem
  · intro time stop hmem
    simp at hmem

/-- Where a run cannot move it waits, and may do so until the instant that it waits for. -/
theorem isDue_of_not_canMove {due later : Nat} (hdue : run.activity.IsDue now due)
    (hcan : run.canMove now = false) (hphase : ∀ cancelled, run.phase ≠ .ended cancelled)
    (hlater : ∀ line milliseconds deadline, run.activity = .waiting line milliseconds deadline →
      later ≤ deadline) :
  run.activity.IsDue later due
  := by
  rw [canMove] at hcan
  cases hactivity : run.activity with
  | ready =>
    rw [hactivity] at hcan
    cases hended : run.phase with
    | ended cancelled => exact absurd hended (hphase cancelled)
    | _ => simp [hended] at hcan
  | waiting line milliseconds deadline =>
    rw [hactivity] at hdue
    exact ⟨hdue.1, hdue.1 ▸ hlater line milliseconds deadline hactivity⟩
  | calling action => simp [hactivity] at hcan
  | returned action error => simp [hactivity] at hcan

/-- A run that is stopped can move. -/
theorem canMove_of_stopping (hphase : run.phase = .draining true) (now : Nat) :
  run.canMove now
  := by
  rw [canMove]
  cases run.activity <;> simp [hphase]

/-- A run that cannot move is on time as long as it waits. -/
theorem OnTime.pass (h : run.OnTime id history now start) (hcan : run.canMove now = false)
    {later : Nat}
    (hlater : ∀ line milliseconds deadline, run.activity = .waiting line milliseconds deadline →
      later ≤ deadline) :
  run.OnTime id history later start
  := by
  constructor
  · exact h.body_eq
  · intro hphase
    exact isDue_of_not_canMove (h.draining hphase) hcan (by simp [hphase]) hlater
  · exact h.own
  · intro time stop hmem
    have hclaimed := h.claimed time stop hmem
    constructor
    · exact hclaimed.cleanUp_eq
    · intro hphase
      rw [canMove_of_stopping hphase] at hcan
      cases hcan
    · intro cancelled hphase
      exact isDue_of_not_canMove (hclaimed.cleaning cancelled hphase) hcan (by simp [hphase])
        hlater
    · exact hclaimed.finished

end Run

end CommandTimelines
