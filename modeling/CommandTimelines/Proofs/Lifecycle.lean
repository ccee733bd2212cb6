import CommandTimelines.Proofs.Interleaving
import CommandTimelines.Proofs.Sorting
import CommandTimelines.Proofs.Timeline
import Mathlib

/-!
# The life cycle of a timeline

The events of one timeline are those of whole runs, one after the other, and possibly those of
a run that has not ended: a start, and then failures of steps, and then the end. The events
themselves tell whether there is a run that has not ended. They agree with the state that the
timeline shows, with the list of running timelines, and with what a start finds.

* `Event.lifecycle` is the language of these sequences of events.
* `Session.Reachable.lifecycle` says that all this holds whatever happens in a session.
-/

namespace CommandTimelines

open Computability Script Text

/-! ### Sequences of events -/

namespace Event

/-- A start. -/
def starts : Language Event := {w | ∃ key actions, w = [.started key actions]}

/-- A failure of a step. -/
def failures : Language Event := {w | ∃ key line error, w = [.failed key line error]}

/-- An end. -/
def ends : Language Event := {w | ∃ key cancelled, w = [.finished key cancelled]}

/-- A run that has not ended. -/
def unfinished : Language Event := starts * failures∗

/-- Whole runs. -/
def closed : Language Event := (unfinished * ends)∗

/-- Whole runs and a run that has not ended. -/
def opened : Language Event := closed * unfinished

/-- The sequences of events of timelines. -/
def lifecycle : Language Event := closed * (1 + unfinished)

theorem lifecycle_eq :
  lifecycle = closed + opened
  := by
  rw [lifecycle, mul_add, mul_one, opened]

variable {w : List Event}

theorem started_mem_opened (h : w ∈ closed) (key : String) (actions : Nat) :
  w ++ [.started key actions] ∈ opened
  := by
  apply Language.append_mem_mul h
  rw [← List.append_nil [Event.started key actions]]
  apply Language.append_mem_mul
  · exact ⟨key, actions, rfl⟩
  · apply Language.nil_mem_kstar

theorem failed_mem_opened (h : w ∈ opened) (key : String) (line : Nat) (error : StepError) :
  w ++ [.failed key line error] ∈ opened
  := by
  have hle : opened * failures ≤ opened := by
    rw [opened, unfinished, mul_assoc, mul_assoc]
    gcongr
    apply kstar_mul_le_kstar
  apply hle
  apply Language.append_mem_mul h
  exact ⟨key, line, error, rfl⟩

theorem finished_mem_closed (h : w ∈ opened) (key : String) (cancelled : Bool) :
  w ++ [.finished key cancelled] ∈ closed
  := by
  have hle : opened * ends ≤ closed := by
    rw [opened, mul_assoc]
    apply kstar_mul_le_kstar
  apply hle
  apply Language.append_mem_mul h
  exact ⟨key, cancelled, rfl⟩

/-- Whole runs end with an end, if there are any. -/
theorem eq_finished_of_mem_closed (h : w ∈ closed) :
  ∀ e ∈ w.getLast?, ∃ key cancelled, e = .finished key cancelled
  := by
  obtain ⟨ws, rfl, hws⟩ := Language.mem_kstar.mp h
  induction ws using List.reverseRecOn with
  | nil => simp
  | append_singleton ws v ih =>
    obtain ⟨u, -, w, ⟨key, cancelled, rfl⟩, rfl⟩ := Language.mem_mul.mp (hws v (by simp))
    intro e he
    use key, cancelled
    simpa [eq_comm] using he

/-- A run that has not ended does not end with an end. -/
theorem ne_finished_of_mem_opened (h : w ∈ opened) :
  ∃ e ∈ w.getLast?, ∀ key cancelled, e ≠ .finished key cancelled
  := by
  obtain ⟨u, -, v, hv, rfl⟩ := Language.mem_mul.mp h
  obtain ⟨a, ⟨key, actions, rfl⟩, b, hb, rfl⟩ := Language.mem_mul.mp hv
  obtain ⟨bs, rfl, hbs⟩ := Language.mem_kstar.mp hb
  cases bs using List.reverseRecOn with
  | nil => simp
  | append_singleton bs x =>
    obtain ⟨key', line, error, rfl⟩ := hbs x (by simp)
    have hlast : u ++ ([started key actions] ++ (bs ++ [[failed key' line error]]).flatten)
        = (u ++ started key actions :: bs.flatten) ++ [failed key' line error] := by
      simp
    use .failed key' line error
    rw [hlast, List.getLast?_concat]
    simp

/-- A sequence of events tells whether its last run has ended. -/
theorem not_mem_opened_of_mem_closed (h : w ∈ closed) :
  w ∉ opened
  := by
  intro hopened
  obtain ⟨e, he, hne⟩ := ne_finished_of_mem_opened hopened
  obtain ⟨key, cancelled, rfl⟩ := eq_finished_of_mem_closed h e he
  apply hne key cancelled rfl

end Event

/-! ### The events of a timeline -/

/-- The events of a timeline that entries tell of. -/
def Entry.eventsOf (key : String) (entries : List Entry) : List Event :=
  (entries.filterMap (·.event?)).filter (·.name == key)

theorem Entry.eventsOf_append (key : String) (entries entries' : List Entry) :
  eventsOf key (entries ++ entries') = eventsOf key entries ++ eventsOf key entries'
  := by
  simp [eventsOf]

/-- What a step of a run publishes: nothing, if it does not tell whether the run is running, or
the failure of a step of a running run, or the end of a running run. -/
inductive Run.Publishes (run run' : Run) : List Event → Prop
  | nothing (h : run'.isRunning = run.isRunning) : Publishes run run' []
  | failed (line : Nat) (error : StepError) (h : run.isRunning) (h' : run'.isRunning) :
      Publishes run run' [.failed run.key line error]
  | finished (cancelled : Bool) (h : run.isRunning) (h' : run'.isRunning = false) :
      Publishes run run' [.finished run.key cancelled]

theorem Run.Next.publishes {id : RunId} {now : Nat} {run run' : Run} {facts : List Fact}
    (h : Run.Next id now run facts run') (time : Nat) :
  run.Publishes run' ((facts.map (Entry.mk time)).filterMap (·.event?))
  := by
  have hnone : ∀ fact : Fact, fact.isOfExecution →
      ((fun entry : Entry => entry.event?) ∘ Entry.mk time) fact = none := by
    intro fact hfact
    cases fact with
    | published run event => cases hfact
    | _ => rfl
  rw [List.filterMap_map, Fact.filterMap_eq hnone]
  have houtcome := h.outcome
  generalize facts.filter (!·.isOfExecution) = outcome at houtcome ⊢
  cases houtcome with
  | same hphase => exact .nothing (by simp [isRunning, state, hphase])
  | failed stopping line error hphase hphase' =>
    exact .failed line error (by simp [isRunning, state, hphase])
      (by simp [isRunning, state, hphase'])
  | stop ticket hphase hphase' => exact .nothing (by simp [isRunning, state, hphase, hphase'])
  | drain hphase hphase' => exact .nothing (by simp [isRunning, state, hphase, hphase'])
  | leave hphase hphase' => exact .nothing (by simp [isRunning, state, hphase, hphase'])
  | finish cancelled hphase hphase' =>
    apply Publishes.finished cancelled
    · simp [isRunning, state, hphase]
    · cases cancelled <;> simp [isRunning, state, hphase']

namespace Server

variable (s : Server)

/-- The events of a timeline, earliest first. -/
def eventsOf (key : String) : List Event := Entry.eventsOf key s.history

theorem eventsOf_reverse_journalWith (facts : List Fact) (key : String) :
  Entry.eventsOf key (s.journalWith facts).reverse
    = s.eventsOf key ++ Entry.eventsOf key (facts.map (Entry.mk s.clock))
  := by
  rw [reverse_journalWith, Entry.eventsOf_append, eventsOf]

/-- Facts about no run are no events. -/
theorem eventsOf_of_none {facts : List Fact} (h : ∀ fact ∈ facts, fact.run? = none)
    (time : Nat) (key : String) :
  Entry.eventsOf key (facts.map (Entry.mk time)) = []
  := by
  have hnone : (facts.map (Entry.mk time)).filterMap (·.event?) = [] := by
    apply List.filterMap_eq_nil_iff.mpr
    intro entry hentry
    obtain ⟨fact, hfact, rfl⟩ := List.mem_map.mp hentry
    have hrun := h fact hfact
    cases fact with
    | published run event => cases hrun
    | _ => rfl
  rw [Entry.eventsOf, hnone, List.filter_nil]

/-- Sequences of events whose last run has not ended, or has. -/
def sequences (active : Bool) : Language Event := if active then Event.opened else Event.closed

theorem sequences_le (active : Bool) :
  sequences active ≤ Event.lifecycle
  := by
  rw [Event.lifecycle_eq]
  cases active
  · apply le_self_add
  · apply le_add_self

theorem mem_opened_iff {w : List Event} {active : Bool} (h : w ∈ sequences active) :
  w ∈ Event.opened ↔ active
  := by
  cases active with
  | false =>
    have hclosed := Event.not_mem_opened_of_mem_closed h
    simpa using hclosed
  | true =>
    have hopened : w ∈ Event.opened := h
    simpa using hopened

/-! ### The events of a server -/

/-- The events of every timeline tell whether it is active. -/
def Bracketed (s : Server) : Prop := ∀ key, s.eventsOf key ∈ sequences (s.isActive key)

theorem Bracketed.congr {s t : Server} (h : s.Bracketed)
    (hactive : ∀ key, t.isActive key = s.isActive key)
    (hevents : ∀ key, t.eventsOf key = s.eventsOf key) :
  t.Bracketed
  := by
  intro key
  rw [hactive, hevents]
  apply h key

/-- A launch begins a new run in the events of its timeline. -/
theorem Bracketed.launch {s t : Server} (h : s.Bracketed) (hkept : s.Kept) (run : Run)
    {actions : Nat} (hidle : s.isActive run.key = false)
    (hknown : (s.timeline? run.key).isSome) (hrunning : run.isRunning)
    (hruns : t.runs = s.runs ++ [run])
    (htimelines : t.timelines = s.timelinesAt run.key s.runs.length)
    (hjournal : t.journal
      = s.journalWith [.published s.runs.length (.started run.key actions)]) :
  t.Bracketed
  := by
  intro key
  rw [eventsOf, history, hjournal, eventsOf_reverse_journalWith]
  by_cases hkey : key = run.key
  · subst hkey
    have hclosed : s.eventsOf run.key ∈ Event.closed := by
      have hrun := h run.key
      rwa [hidle] at hrun
    rw [isActive_of_launch hruns htimelines hknown hrunning]
    have hevents := Event.started_mem_opened hclosed run.key actions
    simpa [sequences, Entry.eventsOf, Entry.event?, Event.name] using hevents
  · rw [hkept.isActive_of_launch_of_ne hruns htimelines hkey]
    have hevents := h key
    simpa [Entry.eventsOf, Entry.event?, Event.name, Ne.symm hkey] using hevents

/-- A step of a run carries the events of its timeline on. -/
theorem Bracketed.work {s t : Server} (h : s.Bracketed) (hkept : s.Kept) {id : RunId}
    {run run' : Run} {facts : List Fact} (hrun : s.runs[id]? = some run)
    (hnext : Run.Next id s.clock run facts run') (hruns : t.runs = s.runs.set id run')
    (hcurrent : ∀ key, t.currentRun? key = s.currentRun? key)
    (hjournal : t.journal = s.journalWith facts) :
  t.Bracketed
  := by
  intro key
  rw [eventsOf, history, hjournal, eventsOf_reverse_journalWith, Entry.eventsOf]
  have hevents := h key
  have hactive : run.isRunning → s.isActive run.key := hkept.isActive_of_isRunning hrun
  have hpublishes := hnext.publishes s.clock
  generalize (facts.map (Entry.mk s.clock)).filterMap (·.event?) = events at hpublishes ⊢
  cases hpublishes with
  | nothing hsame =>
    rw [isActive_of_set hruns hcurrent hrun hsame]
    simpa using hevents
  | failed line error hrunning hrunning' =>
    rw [isActive_of_set hruns hcurrent hrun (hrunning'.trans hrunning.symm)]
    by_cases hkey : key = run.key
    · subst hkey
      rw [hactive hrunning] at hevents ⊢
      simpa [sequences, Event.name] using Event.failed_mem_opened hevents run.key line error
    · simpa [Event.name, Ne.symm hkey] using hevents
  | finished cancelled hrunning hended =>
    by_cases hkey : key = run.key
    · subst hkey
      rw [hactive hrunning] at hevents
      rw [hkept.isActive_of_set_eq_false hruns hcurrent hrun hrunning hended]
      simpa [sequences, Event.name] using Event.finished_mem_closed hevents run.key cancelled
    · rw [hkept.isActive_of_set_of_ne hruns hcurrent hrun hkey]
      simpa [Event.name, Ne.symm hkey] using hevents

/-- However a server comes about, the events of every timeline tell whether it is active. -/
theorem Reachable.bracketed {s : Server} (h : Reachable s) :
  s.Bracketed
  := by
  induction h with
  | new settings commands awaiting =>
    intro key
    apply Language.nil_mem_kstar
  | @change s t hs hchange ih =>
    cases hchange with
    | aside commands awaiting hturns hclock => exact ih.congr (fun _ => rfl) (fun _ => rfl)
    | record fact hrun hstops =>
      refine Bracketed.congr (t := s.record fact) ih (fun _ => rfl) ?_
      intro key
      have hfacts : ∀ fact' ∈ [fact], fact'.run? = none := by simpa using hrun
      have hevents := eventsOf_reverse_journalWith s [fact] key
      rw [eventsOf_of_none hfacts, List.append_nil] at hevents
      apply hevents
    | enroll key =>
      obtain ⟨timelines, heq⟩ := enroll_eq s key
      apply ih.congr (isActive_enroll s key)
      intro key
      rw [heq]
      rfl
    | launch o body cleanUp hidle hknown hbody hcleanUp =>
      apply ih.launch hs.kept { key := o.key, body, cleanUp } hidle hknown rfl rfl rfl rfl
    | work hrun hnext hfollows =>
      exact ih.work hs.kept hrun hnext rfl (currentIn_timelinesWith s _ _) rfl
    | @serve pending facts hserved =>
      refine Bracketed.congr (t := { s with pending, journal := s.journalWith facts }) ih
        (fun _ => rfl) ?_
      intro key
      rw [eventsOf, history, eventsOf_reverse_journalWith,
        eventsOf_of_none fun fact hfact => hserved.run?_eq hfact, List.append_nil]

/-! ### What is shown of timelines -/

/-- A timeline shows that it is running if it is active. -/
theorem stateOf_eq_running_iff (key : String) :
  (s.timeline? key).map s.stateOf = some .running ↔ s.isActive key
  := by
  rw [isActive, currentRun?]
  cases s.timeline? key with
  | none => simp
  | some t =>
    unfold stateOf isRunning
    cases hcurrent : t.current <;> simp [hcurrent]

/-- The keys of running timelines are all different. -/
theorem Kept.nodup_running {s : Server} (h : s.Kept) :
  ((s.timelines.filter fun t => s.stateOf t == .running).map (·.key)).Nodup
  := h.keys_nodup.sublist (List.filter_sublist.map _)

/-- The list of running timelines has those that are active. -/
theorem Kept.mem_running_iff {s : Server} (h : s.Kept) (key : String) :
  key ∈ s.running ↔ s.isActive key
  := by
  rw [running, sort, (sortBy_perm _ _).mem_iff, ← stateOf_eq_running_iff, timeline?]
  constructor
  · intro hmem
    obtain ⟨t, ht, rfl⟩ := List.mem_map.mp hmem
    obtain ⟨ht, hrunning⟩ := List.mem_filter.mp ht
    have hfind : s.timelines.find? (·.key == t.key) = some t := by
      obtain ⟨i, hi, rfl⟩ := List.getElem_of_mem ht
      rw [List.find?_eq_some_iff_getElem]
      refine ⟨by simp, i, hi, rfl, ?_⟩
      intro j hj
      have hne := List.pairwise_iff_getElem.mp h.keys_nodup j i (by simpa using hj.trans hi)
        (by simpa using hi) hj
      simpa using hne
    rw [hfind]
    simpa using hrunning
  · intro hstate
    obtain ⟨t, ht, hrunning⟩ := Option.map_eq_some_iff.mp hstate
    apply List.mem_map.mpr
    use t
    constructor
    · apply List.mem_filter.mpr
      exact ⟨List.mem_of_find?_eq_some ht, by simpa using hrunning⟩
    · simpa using List.find?_some ht

/-- The list of running timelines has each of them once. -/
theorem Kept.count_running {s : Server} (h : s.Kept) (key : String) :
  s.running.count key = if s.isActive key then 1 else 0
  := by
  have hnodup : s.running.Nodup := (sortBy_perm _ _).nodup_iff.mpr h.nodup_running
  rw [hnodup.count]
  simp only [h.mem_running_iff]

/-- A start of an active timeline is refused, and changes nothing. -/
theorem commit_of_isActive {o : Opening} (h : s.isActive o.key) :
  s.commit o = (s, .error (.alreadyRunning o.key))
  := by
  rw [commit, if_pos h]

end Server

/-- Whatever happens in a session, the events of a timeline are those of whole runs and
possibly of one that has not ended. If there is one then the timeline shows that it is running,
then it is listed once among the running ones, which come in the order of their bytes, and then
every start that has read its file is refused; otherwise not. -/
theorem Session.Reachable.lifecycle {session : Session} (h : Reachable session)
    (key : String) :
  session.server.eventsOf key ∈ Event.lifecycle ∧
  (session.server.eventsOf key ∈ Event.opened ↔
    (session.server.timeline? key).map session.server.stateOf = some .running) ∧
  (session.server.eventsOf key ∈ Event.opened ↔ session.server.running.count key = 1) ∧
  (session.server.eventsOf key ∉ Event.opened ↔ session.server.running.count key = 0) ∧
  session.server.running.Pairwise (bytes · < bytes ·) ∧
  (session.server.eventsOf key ∈ Event.opened → ∀ o : Opening, o.key = key →
    session.server.commit o = (session.server, .error (.alreadyRunning key))) ∧
  (session.server.eventsOf key ∈ Event.opened → ∀ (index : Nat) (file : String)
    (args : List String) (o : Opening),
    Opening.read session.server.settings.root session.files file args = .ok o → o.key = key →
    session.perform index (.start file args)
      = (session, .started (.error (.alreadyRunning key))))
  := by
  have hkept := h.server.kept
  have hevents := h.server.bracketed key
  have hopened := Server.mem_opened_iff hevents
  have hrefused : session.server.eventsOf key ∈ Event.opened → ∀ o : Opening, o.key = key →
      session.server.commit o = (session.server, .error (.alreadyRunning key)) := by
    rintro hactive o rfl
    apply Server.commit_of_isActive
    apply hopened.mp hactive
  refine ⟨Server.sequences_le _ hevents, ?_, ?_, ?_, ?_, hrefused, ?_⟩
  · rw [hopened, Server.stateOf_eq_running_iff]
  · rw [hopened, hkept.count_running]
    simp
  · rw [hopened, hkept.count_running]
    simp
  · apply pairwise_bytes_sort hkept.nodup_running
  · intro hactive index file args o hread hkey
    simp only [perform, Server.start, hread, hrefused hactive o hkey]
    rfl

/-- A timeline whose script waits once, and that has just been started. -/
theorem lifecycle_of_wait :
  let session := Session.happen {} (.commit ⟨"show", "#wait 5", []⟩)
  session.server.eventsOf "show" = [.started "show" 1] ∧
  session.server.eventsOf "show" ∈ Event.opened ∧
  session.server.running.count "show" = 1 ∧
  session.server.commit ⟨"show", "", []⟩ = (session.server, .error (.alreadyRunning "show"))
  := by
  intro session
  have hreachable : session.Reachable := .happen (.new {} {} [] []) _
  obtain ⟨-, hstate, hcount, -, -, hrefused, -⟩ := Session.Reachable.lifecycle hreachable "show"
  have hopened := hstate.mpr (by decide +kernel)
  exact ⟨by decide +kernel, hopened, hcount.mp hopened, hrefused hopened _ rfl⟩

end CommandTimelines
