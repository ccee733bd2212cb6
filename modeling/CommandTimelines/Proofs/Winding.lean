import CommandTimelines.Proofs.Completion
import CommandTimelines.Proofs.Edits
import CommandTimelines.Proofs.Queue
import CommandTimelines.Proofs.Sparing
import CommandTimelines.Proofs.Stopping
import CommandTimelines.Proofs.Timing

/-!
# Runs that are wound up

If no clean-up line waits (`Settings.cleansUpAtOnce`), then a run does not wait in its clean-up, and
where nothing can move every run that has not ended waits in its body (`Server.Still`). From there
on, and as long as no time passes, nothing becomes of a run but that a stop claims its end and winds
it up: it is roused from its wait, leaves its body, cleans up and ends (`Run.Wound`). What becomes
of the server meanwhile is told by how far its runs are wound up (`Server.Winding`).
-/

namespace CommandTimelines

open Host Script Text

/-! ### Clean-ups that do not wait -/

/-- Whether no line of the clean-up waits for longer than no time. -/
def Settings.cleansUpAtOnce (settings : Settings) : Bool :=
  (lines (join "\n" settings.cleanUp).toList).all fun line =>
    match Line.read line with
    | .comment => true
    | .text content =>
      match Directive.read settings.specifiers content with
      | .ok (.wait milliseconds) => milliseconds == 0
      | _ => true

/-- A wait that a line without arguments gives is one that the line tells of. -/
theorem Script.Scope.read_of_delay_mem {scope : Scope} (hparams : scope.params = []) {number : Nat}
    {raw : List Char} {actions : List Action} (h : scope.compileLine number raw = .ok actions)
    {line milliseconds : Nat} (hmem : .delay line milliseconds ∈ actions) :
  ∃ content, Line.read raw = .text content ∧
    Directive.read scope.specifiers content = .ok (.wait milliseconds)
  := by
  rw [compileLine] at h
  split at h
  · cases h
    cases hmem
  · rename_i content hread
    refine ⟨content, hread, ?_⟩
    obtain ⟨filled, hfill, hgives | ⟨rfl, -, -⟩⟩ := exists_gives h
    · rw [fill, if_pos hparams] at hfill
      obtain rfl := Except.ok.inj hfill
      cases hgives with
      | @wait rest ms hcontent hvalue =>
        obtain ⟨-, rfl⟩ := Action.delay.inj (List.mem_singleton.mp hmem)
        rw [hcontent, Directive.read_waitMark, hvalue]
      | response hmark hwords hnone => cases List.mem_singleton.mp hmem
      | calls hmark hwords hsome =>
        obtain ⟨c, -, hc⟩ := List.mem_map.mp hmem
        cases hc
    · cases hmem

namespace Server

variable {s t : Server}

/-- The clean-up that a start compiles does not wait, if no line of it does. -/
theorem eq_zero_of_cleanUpOf (h : s.settings.cleansUpAtOnce) {o : Opening} {cleanUp : List Action}
    (hcleanUp : s.cleanUpOf o = .ok cleanUp) {line milliseconds : Nat}
    (hmem : .delay line milliseconds ∈ cleanUp) :
  milliseconds = 0
  := by
  have hlisting := Scope.isListing_of_compileLines hcleanUp
  obtain ⟨hle, hlt⟩ := hlisting.line_mem _ hmem
  obtain ⟨i, hi⟩ := Nat.exists_eq_add_of_le hle
  simp only [Action.line] at hi hlt
  subst hi
  obtain ⟨raw, hraw⟩ : ∃ raw, (lines (join "\n" s.settings.cleanUp).toList)[i]? = some raw :=
    ⟨_, List.getElem?_eq_getElem (by omega)⟩
  have hat : Action.delay (1 + i) milliseconds ∈ actionsAt (1 + i) cleanUp :=
    List.mem_filter.mpr ⟨hmem, by simp [Action.line]⟩
  obtain ⟨content, hread, hwait⟩ := Scope.read_of_delay_mem rfl (hlisting.compileLine_eq i raw hraw)
    hat
  have hline := List.all_eq_true.mp h raw (List.mem_of_getElem? hraw)
  have hspecifiers : (s.scope o.key []).specifiers = s.settings.specifiers := rfl
  rw [hspecifiers] at hwait
  simpa [hread, hwait] using hline

/-- No run waits in its clean-up, if no line of it does. -/
theorem Reachable.eq_zero_of_cleanUp (h : s.Reachable) (hset : s.settings.cleansUpAtOnce)
    {run : Run} (hrun : run ∈ s.runs) {line milliseconds : Nat}
    (hmem : .delay line milliseconds ∈ run.cleanUp) :
  milliseconds = 0
  := by
  obtain ⟨t, o, hsettings, -, hcleanUp⟩ := h.exists_compiled run hrun
  rw [← hsettings] at hset
  exact eq_zero_of_cleanUpOf hset hcleanUp hmem

end Server

/-! ### Runs that wait in their bodies -/

namespace Run

variable {id : RunId} {run : Run} {history : List Entry}

/-- A run whose clean-up does not wait is not waiting when it cleans up. -/
theorem Lived.isWaiting_eq_false (h : Lived id run history)
    (hcleanUp : ∀ line milliseconds, .delay line milliseconds ∈ run.cleanUp → milliseconds = 0)
    {cancelled : Bool} (hphase : run.phase = .cleaning cancelled) :
  run.isWaiting = false
  := by
  cases h with
  | launched key body cleanUp time => cases hphase
  | @next run run' history now facts hlived hnext htime =>
    cases hnext with
    | beginBody hdraining hready hnext => simp [hdraining] at hphase
    | @beginCleanUp action _ hcleaning hready hnext =>
      have hmem : action ∈ run.cleanUp := List.mem_of_getElem? hnext
      cases action with
      | delay line milliseconds =>
        obtain rfl := hcleanUp line milliseconds hmem
        rfl
      | _ => rfl
    | drain hdraining hready hnext => simp [isWaiting, hready]
    | leave hdraining hready => simp [isWaiting, hready]
    | finish hcleaning hready hnext => cases hphase
    | stop ticket hdraining => cases hphase
    | _ => rfl

/-- Whether the body of a run is drained, nobody has claimed its end, and it waits for a later
time. -/
structure Waits (run : Run) (now : Nat) : Prop where
  phase : run.phase = .draining false
  waiting : ∃ line milliseconds deadline,
    run.activity = .waiting line milliseconds deadline ∧ now < deadline

end Run

namespace Server

variable {s t : Server}

/-- Whether every run of a server that has not ended waits in its body. -/
def Still (s : Server) : Prop :=
  ∀ (id : RunId) (run : Run), s.runs[id]? = some run → run.isRunning → run.Waits s.clock

/-- Where nothing can move, and no clean-up waits, every run that has not ended waits in its
body. -/
theorem Reachable.still (h : s.Reachable) (hset : s.settings.cleansUpAtOnce)
    (hmoves : s.moves = []) :
  s.Still
  := by
  intro id run hrun hrunning
  have hcan := h.canWork_eq_false hmoves id
  rw [canWork, hrun] at hcan
  cases hphase : run.phase with
  | ended cancelled => cases cancelled <;> simp [Run.isRunning, Run.state, hphase] at hrunning
  | draining stopping =>
    cases stopping with
    | true =>
      have hmove := Run.canMove_of_stopping hphase s.clock
      simp only [hmove] at hcan
      cases hcan
    | false =>
      refine ⟨hphase, ?_⟩
      cases hactivity : run.activity with
      | waiting line milliseconds deadline =>
        have hlate : s.clock < deadline := by simpa [Run.canMove, hactivity, hphase] using hcan
        exact ⟨line, milliseconds, deadline, rfl, hlate⟩
      | _ => simp [Run.canMove, hactivity, hphase] at hcan
  | cleaning cancelled =>
    have hwaiting := (h.lived hrun).isWaiting_eq_false
      (fun _ _ => h.eq_zero_of_cleanUp hset (List.mem_of_getElem? hrun)) hphase
    cases hactivity : run.activity with
    | waiting line milliseconds deadline => simp [Run.isWaiting, hactivity] at hwaiting
    | _ => simp [Run.canMove, hactivity, hphase] at hcan

end Server

/-! ### Winding up one run -/

namespace Run

/-- A run that was stopped, after its clean-up. -/
def cut (run : Run) : Run :=
  { run with cleaned := run.cleanUp.length, phase := .ended true, activity := .ready }

/-- How far a run may be wound up: its end is claimed, it is roused from its wait, it cleans up, it
has ended. -/
inductive Wound (run : Run) : Run → Prop
  | unclaimed : Wound run run
  | claimed : Wound run { run with phase := .draining true }
  | roused : Wound run { run with phase := .draining true, activity := .ready }
  | cleaning (cleaned : Nat) (activity : Activity) :
      Wound run { run with cleaned, phase := .cleaning true, activity }
  | ended : Wound run run.cut

variable {id : RunId} {now : Nat} {run r r' : Run} {facts : List Fact}

theorem Wound.begun_eq (h : run.Wound r) :
  r.begun = run.begun
  := by
  cases h <;> rfl

theorem Wound.key_eq (h : run.Wound r) :
  r.key = run.key
  := by
  cases h <;> rfl

/-- What begins, and is over at once, is no event. -/
theorem event?_began (work : Work) (time : Nat) :
  ((Fact.began work :: work.atOnce).map (Entry.mk time)).filterMap (·.event?) = []
  := by
  rw [Work.atOnce]
  split <;> rfl

/-- A step of a run that is wound up takes it further, and publishes nothing but its end. -/
theorem Wound.next (h : run.Wound r) (hwaits : run.Waits now) (hcounted : r.Counted)
    (hnext : Next id now r facts r') :
  run.Wound r' ∧ ∀ time, (facts.map (Entry.mk time)).filterMap (·.event?)
    = if r'.isRunning then [] else [.finished run.key true]
  := by
  obtain ⟨hphase, line, milliseconds, deadline, hactivity, hlate⟩ := hwaits
  cases h with
  | unclaimed =>
    -- All that can become of a run that waits is that its end is claimed.
    cases hnext with
    | stop ticket hdraining => exact ⟨.claimed, fun _ => rfl⟩
    | wake hwaiting hdue =>
      obtain ⟨-, -, rfl⟩ := Activity.waiting.inj (hactivity.symm.trans hwaiting)
      rcases hdue with hstopping | hdue
      · rw [hphase] at hstopping
        cases hstopping
      · exact absurd hdue (Nat.not_le_of_lt hlate)
    | _ => simp_all
  | claimed =>
    cases hnext with
    | wake hwaiting hdue => exact ⟨.roused, fun _ => rfl⟩
    | _ => simp_all
  | roused =>
    cases hnext with
    | leave hdraining hready => exact ⟨.cleaning run.cleaned .ready, fun _ => rfl⟩
    | _ => simp_all
  | cleaning cleaned activity =>
    cases hnext with
    | beginCleanUp hcleaning hready hnext =>
      exact ⟨.cleaning _ _, fun time => event?_began _ time⟩
    | @call action call error hcalling hmakes =>
      refine ⟨.cleaning _ _, ?_⟩
      intro time
      cases call <;> rfl
    | takeUp hreturned =>
      refine ⟨.cleaning _ _, ?_⟩
      intro time
      rw [failure_of_not_draining (by simp)]
      rfl
    | wake hwaiting hdue => exact ⟨.cleaning _ _, fun _ => rfl⟩
    | @finish cancelled hcleaning hready hnext =>
      obtain rfl : true = cancelled := Phase.cleaning.inj hcleaning
      obtain rfl : activity = .ready := hready
      obtain rfl : cleaned = run.cleanUp.length :=
        Nat.le_antisymm hcounted.cleaned_le (List.getElem?_eq_none_iff.mp hnext)
      exact ⟨.ended, fun _ => rfl⟩
    | _ => simp_all
  | ended => exact absurd rfl (hnext.phase_ne_ended hcounted true)

end Run

namespace Server

variable {s t u : Server}

/-! ### What becomes of the server meanwhile -/

/-- How a server in which every run has ended or waits comes to another one, as no time passes and
no run is started: runs are wound up, and those that end publish it. -/
structure Winding (s t : Server) : Prop where
  clock : t.clock = s.clock
  timelines : t.timelines = s.timelines
  length : t.runs.length = s.runs.length
  wound : ∀ (id : RunId) (run : Run), s.runs[id]? = some run → run.isRunning →
    ∃ run', t.runs[id]? = some run' ∧ run.Wound run'
  events : ∀ key, t.eventsOf key
    = s.eventsOf key ++ if s.isActive key && !t.isActive key then [.finished key true] else []
  instant : ∃ later, t.journal = later ++ s.journal ∧ ∀ entry ∈ later, entry.time = s.clock

theorem Winding.refl (s : Server) :
  s.Winding s
  where
  clock := rfl
  timelines := rfl
  length := rfl
  wound _ run hrun _ := ⟨run, hrun, .unclaimed⟩
  events := by simp
  instant := ⟨[], rfl, List.forall_mem_nil _⟩

/-- What is written down is written down now. -/
theorem Winding.instant_journalWith (h : s.Winding t) (facts : List Fact) :
  ∃ later, t.journalWith facts = later ++ s.journal ∧ ∀ entry ∈ later, entry.time = s.clock
  := by
  obtain ⟨later, hlater, htime⟩ := h.instant
  use (facts.map (Entry.mk t.clock)).reverse ++ later
  constructor
  · rw [journalWith, hlater, List.append_assoc]
  · intro entry hentry
    rcases List.mem_append.mp hentry with hnew | hold
    · obtain ⟨fact, -, rfl⟩ := List.mem_map.mp (List.mem_reverse.mp hnew)
      exact h.clock
    · exact htime entry hold

/-- Facts about no run wind up none. -/
theorem Winding.note (h : s.Winding t) {facts : List Fact}
    (hfacts : ∀ fact ∈ facts, fact.run? = none) (hclock : u.clock = t.clock)
    (htimelines : u.timelines = t.timelines) (hruns : u.runs = t.runs)
    (hjournal : u.journal = t.journalWith facts) :
  s.Winding u
  where
  clock := hclock.trans h.clock
  timelines := htimelines.trans h.timelines
  length := hruns ▸ h.length
  wound := hruns ▸ h.wound
  events := by
    intro key
    have hactive : u.isActive key = t.isActive key := by
      simp only [isActive, currentRun?, timeline?, isRunning, runState, hruns, htimelines]
    rw [hactive, ← h.events, eventsOf, history, hjournal, eventsOf_reverse_journalWith,
      eventsOf_of_none hfacts, List.append_nil]
  instant := hjournal ▸ h.instant_journalWith facts

/-- If a run that goes on publishes nothing but its end, then a timeline has published its end in
addition exactly if it is no longer active. -/
theorem Winding.eventsOf_work (h : s.Winding t) (hs : s.Kept) (ht : t.Kept) {id : RunId}
    {run r r' : Run} {facts : List Fact} (hrun : s.runs[id]? = some run) (hrunning : run.isRunning)
    (hr : t.runs[id]? = some r) (hrRunning : r.isRunning) (hsame : r.key = run.key)
    (hevents : ∀ time, (facts.map (Entry.mk time)).filterMap (·.event?)
      = if r'.isRunning then [] else [.finished run.key true])
    (htimelines : u.timelines = t.timelines) (hruns : u.runs = t.runs.set id r')
    (hjournal : u.journal = t.journalWith facts) (key : String) :
  u.eventsOf key
    = s.eventsOf key ++ if s.isActive key && !u.isActive key then [.finished key true] else []
  := by
  have hcurrent : ∀ key, u.currentRun? key = t.currentRun? key := by
    intro key
    rw [currentRun?, timeline?, htimelines]
    rfl
  rw [eventsOf, history, hjournal, eventsOf_reverse_journalWith, h.events key, List.append_assoc,
    Entry.eventsOf, hevents]
  congr 1
  cases hstays : r'.isRunning with
  | true =>
    rw [isActive_of_set hruns hcurrent hr (hstays.trans hrRunning.symm)]
    simp
  | false =>
    by_cases hkey : key = r.key
    · subst hkey
      have hbefore := hs.isActive_of_isRunning hrun hrunning
      rw [← hsame] at hbefore
      rw [ht.isActive_of_set_eq_false hruns hcurrent hr hrRunning hstays, hbefore,
        ht.isActive_of_isRunning hr hrRunning]
      simp [Event.name, hsame]
    · have hne : run.key ≠ key := by
        rw [← hsame]
        exact Ne.symm hkey
      rw [ht.isActive_of_set_of_ne hruns hcurrent hr hkey]
      simp [Event.name, hne]

/-- A step of a run winds it up. -/
theorem Winding.work (h : s.Winding t) (hs : s.Reachable) (hstill : s.Still) (ht : t.Reachable)
    (hchanges : Changes s t) {id : RunId} {r r' : Run} {facts : List Fact}
    (hr : t.runs[id]? = some r) (hnext : Run.Next id t.clock r facts r')
    (hclock : u.clock = t.clock)
    (htimelines : u.timelines = t.timelinesWith r.key (r'.begun - r.begun))
    (hruns : u.runs = t.runs.set id r') (hjournal : u.journal = t.journalWith facts) :
  s.Winding u
  := by
  have hlt := (List.getElem?_eq_some_iff.mp hr).1
  have hcounted := (ht.lived hr).counted
  have hrRunning := hnext.isRunning_of_counted hcounted
  obtain ⟨run, hrun⟩ : ∃ run, s.runs[id]? = some run :=
    ⟨_, List.getElem?_eq_getElem (h.length ▸ hlt)⟩
  have hrunning : run.isRunning := by
    by_contra hended
    obtain ⟨cancelled, hphase⟩ := Run.exists_ended (by simpa using hended)
    obtain rfl := Option.some.inj (hr.symm.trans (hs.ended_of_changes hchanges hrun hphase).1)
    exact hended hrRunning
  have hwaits : run.Waits t.clock := h.clock ▸ hstill id run hrun hrunning
  obtain ⟨_, hr₀, hwound⟩ := h.wound id run hrun hrunning
  obtain rfl := Option.some.inj (hr.symm.trans hr₀)
  obtain ⟨hwound', hevents⟩ := hwound.next hwaits hcounted hnext
  rw [hwound'.begun_eq, hwound.begun_eq, Nat.sub_self, timelinesWith_zero] at htimelines
  refine ⟨hclock.trans h.clock, htimelines.trans h.timelines, ?_, ?_, ?_,
    hjournal ▸ h.instant_journalWith facts⟩
  · rw [hruns, List.length_set, h.length]
  · intro other run' hrun' hrunning'
    rw [hruns]
    by_cases hother : other = id
    · subst hother
      obtain rfl := Option.some.inj (hrun.symm.trans hrun')
      exact ⟨r', List.getElem?_set_self hlt, hwound'⟩
    · rw [List.getElem?_set_ne (Ne.symm hother)]
      exact h.wound other run' hrun' hrunning'
  · exact h.eventsOf_work hs.kept ht.kept hrun hrunning hr hrRunning hwound.key_eq hevents
      htimelines hruns hjournal

/-- No timeline is taken away. -/
theorem Changes.length_timelines_le (h : Changes s t) :
  s.timelines.length ≤ t.timelines.length
  := by
  induction h with
  | refl => exact Nat.le_refl _
  | tail _ hchange ih =>
    apply Nat.le_trans ih
    cases hchange with
    | enroll key =>
      rw [enroll]
      split
      · exact Nat.le_refl _
      · simp
    | launch o body cleanUp hidle hknown hbody hcleanUp => simp [timelinesAt]
    | work hrun hnext hfollows => simp [timelinesWith]
    | _ => exact Nat.le_refl _

/-- As long as no time passes, and no run and no timeline is added, runs are only wound up. -/
theorem Reachable.winding (hs : s.Reachable) (hstill : s.Still) (h : Changes s t)
    (hclock : t.clock = s.clock) (hruns : t.runs.length = s.runs.length)
    (htimelines : t.timelines.length = s.timelines.length) :
  s.Winding t
  := by
  induction h with
  | refl => exact .refl s
  | @tail between t hbefore hchange ih =>
    -- What only grows, and is the same in the end, has been the same all along.
    have hlater : Changes between t := .single hchange
    have hclock' : between.clock = s.clock :=
      Nat.le_antisymm (hclock ▸ hlater.clock_le) (Changes.clock_le hbefore)
    have hruns' : between.runs.length = s.runs.length :=
      Nat.le_antisymm (hruns ▸ hlater.length_runs_le) (Changes.length_runs_le hbefore)
    have htimelines' : between.timelines.length = s.timelines.length :=
      Nat.le_antisymm (htimelines ▸ hlater.length_timelines_le)
        (Changes.length_timelines_le hbefore)
    have hbetween := ih hclock' hruns' htimelines'
    cases hchange with
    | aside commands awaiting hturns hle =>
      exact hbetween.note (List.forall_mem_nil _) (hclock.trans hclock'.symm) rfl rfl rfl
    | record fact hrun hstops =>
      have hfacts : ∀ fact' ∈ [fact], fact'.run? = none := by simpa using hrun
      exact hbetween.note hfacts rfl rfl rfl rfl
    | enroll key =>
      rw [enroll] at htimelines ⊢
      split at htimelines
      · rename_i hknown
        rw [if_pos hknown]
        exact hbetween
      · simp only [List.length_append, List.length_singleton] at htimelines
        omega
    | launch o body cleanUp hidle hknown hbody hcleanUp =>
      simp only [List.length_append, List.length_singleton] at hruns
      omega
    | work hrun hnext hfollows =>
      exact hbetween.work hs hstill (hs.changes hbefore) hbefore hrun hnext rfl rfl rfl rfl
    | serve hserved =>
      exact hbetween.note (fun fact hfact => hserved.run?_eq hfact) rfl rfl rfl rfl

end Server

end CommandTimelines
