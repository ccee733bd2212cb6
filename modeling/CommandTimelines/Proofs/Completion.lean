import CommandTimelines.Proofs.Execution
import CommandTimelines.Proofs.Interleaving

/-!
# Completion

Whatever has happened in a session, if only time passes from now on then there is a time by
which every run has ended and every request is answered (`Session.Reachable.completes`). For
nothing waits longer than `Server.longestWait`, and whenever a wait is over the load of the
server goes down. For the same reason a session that lets time pass stops on the way as often as
it has to: after a step nothing can move (`Session.Reachable.moves_after`).
-/

namespace CommandTimelines

/-- The run that a request waits for. -/
def Pending.run? : Pending → Option RunId
  | .stopping _ _ id => some id
  | .finishing _ id => some id
  | .stoppingAll _ current _ _ => current

namespace Server

variable {s : Server}

/-- A request can go on if it waits for no run, or for one that has ended. -/
theorem isDue_iff (p : Pending) :
  s.isDue p ↔ ∀ id, p.run? = some id → s.hasEnded id
  := by
  cases p with
  | stopping ticket asker id => simp [isDue, Pending.run?]
  | finishing ticket id => simp [isDue, Pending.run?]
  | stoppingAll ticket current rest count => cases current <;> simp [isDue, Pending.run?]

/-- A request waits for a run that there is. -/
theorem Reachable.lt_length_of_pending (h : Reachable s) :
  ∀ p ∈ s.pending, ∀ id, p.run? = some id → id < s.runs.length
  := by
  induction h with
  | new settings commands awaiting =>
    intro p hp
    cases hp
  | @change s t hs hchange ih =>
    cases hchange with
    | aside commands awaiting hturns hclock => apply ih
    | record fact hrun hstops => apply ih
    | enroll key =>
      obtain ⟨timelines, heq⟩ := enroll_eq s key
      rw [heq]
      apply ih
    | launch o body cleanUp hidle hknown hbody hcleanUp =>
      intro p hp id hid
      simp only [List.length_append, List.length_singleton]
      apply Nat.lt_succ_of_lt (ih p hp id hid)
    | @work id run run' facts pending hrun hnext hfollows =>
      have hlt := (List.getElem?_eq_some_iff.mp hrun).1
      simp only [List.length_set]
      cases hfollows with
      | own h => apply ih
      | stop ticket asker =>
        intro p hp other hother
        rcases List.mem_append.mp hp with hp | hp
        · apply ih p hp other hother
        · obtain rfl := List.mem_singleton.mp hp
          obtain rfl := Option.some.inj hother
          apply hlt
      | stopNext h =>
        intro p hp other hother
        rcases List.mem_or_eq_of_mem_set hp with hp | rfl
        · apply ih p hp other hother
        · obtain rfl := Option.some.inj hother
          apply hlt
    | serve hserved =>
      intro p hp id hid
      cases hserved with
      | finishing ticket hcurrent =>
        rcases List.mem_append.mp hp with hp | hp
        · apply ih p hp id hid
        · obtain rfl := List.mem_singleton.mp hp
          obtain rfl := Option.some.inj hid
          obtain ⟨run, hrun, -⟩ := hs.kept.key_of_current _ _ hcurrent
          apply (List.getElem?_eq_some_iff.mp hrun).1
      | stoppingAll ticket ids =>
        rcases List.mem_append.mp hp with hp | hp
        · apply ih p hp id hid
        · obtain rfl := List.mem_singleton.mp hp
          cases hid
      | skip h hclaim =>
        rcases List.mem_or_eq_of_mem_set hp with hp | rfl
        · apply ih p hp id hid
        · cases hid
      | counted h hended =>
        rcases List.mem_or_eq_of_mem_set hp with hp | rfl
        · apply ih p hp id hid
        · cases hid
      | stopped h hended => apply ih p (List.mem_of_mem_eraseIdx hp) id hid
      | ended h hended => apply ih p (List.mem_of_mem_eraseIdx hp) id hid
      | stoppedAll h => apply ih p (List.mem_of_mem_eraseIdx hp) id hid

/-- Nothing waits longer than waits last at most. -/
theorem Reachable.deadline_le (h : Reachable s) {deadline : Nat}
    (hmem : deadline ∈ s.deadlines) :
  deadline ≤ s.clock + longestWait
  := by
  obtain ⟨run, hrun, hdeadline⟩ := List.mem_filterMap.mp hmem
  obtain ⟨id, hid⟩ := List.mem_iff_getElem?.mp hrun
  obtain ⟨done, atHand, hlogged⟩ := (h.lived hid).logged
  have hwritten := hlogged.written
  split at hdeadline
  · rename_i line milliseconds deadline' hwaiting
    obtain rfl := Option.some.inj hdeadline
    rw [hwaiting] at hwritten
    cases hwritten with
    | waiting line milliseconds start =>
      have hbegan : (⟨start, .began ⟨id, run.isCleaning, .delay line milliseconds⟩⟩ : Entry)
          ∈ s.historyOf id := by
        apply List.mem_of_mem_filter
        rw [hlogged.filter_eq]
        apply List.mem_append_right _ List.mem_cons_self
      have hstart := h.historic.time_le _
        (List.mem_reverse.mp (List.mem_of_mem_filter hbegan))
      apply Nat.add_le_add hstart (Nat.min_le_right _ _)
  · cases hdeadline

/-- Where nothing can move and nobody waits for the clock, every run has ended. -/
theorem Reachable.isRunning_eq_false (h : Reachable s) (hmoves : s.moves = [])
    (hdeadlines : s.deadlines = []) {id : RunId} {run : Run} (hrun : s.runs[id]? = some run) :
  run.isRunning = false
  := by
  have hcan := h.canWork_eq_false hmoves id
  rw [canWork, hrun] at hcan
  have hnone := List.filterMap_eq_nil_iff.mp hdeadlines run
    (List.mem_of_getElem? hrun)
  cases hactivity : run.activity with
  | ready =>
    cases hphase : run.phase with
    | ended cancelled => cases cancelled <;> simp [Run.isRunning, Run.state, hphase]
    | _ => simp [Run.canMove, hactivity, hphase] at hcan
  | waiting line milliseconds deadline => simp [hactivity] at hnone
  | calling action => simp [Run.canMove, hactivity] at hcan
  | returned action error => simp [Run.canMove, hactivity] at hcan

/-- Whether every run has ended and every request is answered. -/
def IsComplete (s : Server) : Prop := (∀ run ∈ s.runs, run.isRunning = false) ∧ s.pending = []

/-- Where nothing can move and nobody waits for the clock, everything is done. -/
theorem Reachable.isComplete (h : Reachable s) (hmoves : s.moves = [])
    (hdeadlines : s.deadlines = []) :
  s.IsComplete
  := by
  have hended : ∀ run ∈ s.runs, run.isRunning = false := by
    intro run hrun
    obtain ⟨id, hid⟩ := List.mem_iff_getElem?.mp hrun
    apply h.isRunning_eq_false hmoves hdeadlines hid
  refine ⟨hended, ?_⟩
  by_contra hne
  obtain ⟨p, rest, hpending⟩ := List.exists_cons_of_ne_nil hne
  have hdue : s.isDue p := by
    rw [isDue_iff]
    intro id hid
    have hlt := h.lt_length_of_pending p (by simp [hpending]) id hid
    rw [hasEnded, List.getElem?_eq_getElem hlt]
    simp [hended _ (List.getElem_mem hlt)]
  have hserve : Move.serve 0 ∈ s.moves := by
    simp [moves, hpending, canServe, hdue, List.range_succ_eq_map]
  rw [hmoves] at hserve
  cases hserve

/-! ### Where nothing can move -/

/-- Where nothing can move, nothing can at a later time either, unless a wait is over by
then. -/
theorem moves_setClock_eq_nil (hmoves : s.moves = []) {time : Nat}
    (hlate : ∀ deadline ∈ s.deadlines, time < deadline) :
  (s.setClock time).moves = []
  := by
  have hwork : ∀ id, (s.setClock time).canWork id → s.canWork id := by
    intro id hcan
    simp only [canWork, setClock] at hcan ⊢
    split at hcan
    · rename_i run hrun
      simp only [Run.canMove] at hcan ⊢
      cases hactivity : run.activity with
      | waiting line milliseconds deadline =>
        have hdeadline : deadline ∈ s.deadlines := by
          apply List.mem_filterMap.mpr
          use run, List.mem_of_getElem? hrun
          simp only [hactivity]
        have hlater := Nat.not_le_of_lt (hlate deadline hdeadline)
        simp only [hactivity, hlater, decide_false, Bool.or_false] at hcan
        simp only [hcan, Bool.true_or]
      | ready => simpa only [hactivity] using hcan
      | calling action => rfl
      | returned action error => rfl
    · cases hcan
  apply List.eq_nil_iff_forall_not_mem.mpr
  intro move hmem
  have hmem' : move ∈ s.moves := by
    rcases List.mem_append.mp hmem with hserve | hmem
    · apply List.mem_append_left _ hserve
    · obtain ⟨id, hid, rfl⟩ := List.mem_map.mp hmem
      obtain ⟨hturn, hcan⟩ := List.mem_filter.mp hid
      apply List.mem_append_right
      apply List.mem_map_of_mem (List.mem_filter.mpr ⟨hturn, hwork id hcan⟩)
  rw [hmoves] at hmem'
  cases hmem'

theorem settleIn_of_moves (n : Nat) (hmoves : s.moves = []) :
  s.settleIn n = s
  := by
  cases n with
  | zero => rfl
  | succ n => rw [settleIn, hmoves]

/-- Where nothing can move, there is nothing to settle. -/
theorem settle_of_moves (hmoves : s.moves = []) :
  s.settle = s
  := settleIn_of_moves s.load hmoves

/-- Nothing is due before a time that every wait goes on after. -/
theorem advanceIn_of_late {target : Nat} (hlate : ∀ deadline ∈ s.deadlines, target < deadline)
    (n : Nat) :
  s.advanceIn target n = s.setClock target
  := by
  cases n with
  | zero => rfl
  | succ n =>
    have hnone : s.deadlines.filter (· ≤ target) = [] := by
      apply List.filter_eq_nil_iff.mpr
      intro deadline hmem
      simpa using hlate deadline hmem
    rw [advanceIn, hnone]
    rfl

/-- Where nothing can move, nothing happens in no time. -/
theorem Reachable.advance_zero (h : Reachable s) (hmoves : s.moves = []) :
  s.advance 0 = s
  := by
  rw [advance, Nat.add_zero]
  apply advanceIn_of_late
  intro deadline hmem
  exact h.clock_lt hmoves hmem

/-- Time passes until nothing can move. -/
theorem Reachable.moves_advanceIn (target n : Nat) :
  ∀ {s : Server}, s.Reachable → s.moves = [] → s.load ≤ n → s.clock ≤ target →
    (s.advanceIn target n).moves = []
  := by
  induction n with
  | zero =>
    intro s h hmoves hload htarget
    apply moves_setClock_eq_nil hmoves
    simp [h.deadlines_eq_nil hload]
  | succ n ih =>
    intro s h hmoves hload htarget
    rw [Server.advanceIn]
    split
    · rename_i hnone
      apply moves_setClock_eq_nil hmoves
      intro deadline hmem
      have hlate := List.filter_eq_nil_iff.mp (List.min?_eq_none_iff.mp hnone) deadline hmem
      simpa using hlate
    · rename_i time htime
      obtain ⟨hmem, -⟩ := List.min?_eq_some_iff.mp htime
      obtain ⟨hdeadline, hle⟩ := List.mem_filter.mp hmem
      have hlater := h.clock_lt hmoves hdeadline
      have hlt := load_settle_lt _ (h.moves_setClock_ne_nil hdeadline)
      have hset := h.changes (setClock_changes s (Nat.le_of_lt hlater))
      apply ih (hset.changes (settle_changes _)) (moves_settle _)
      · apply Nat.le_of_lt_succ (Nat.lt_of_lt_of_le hlt hload)
      · simp only [clock_settle, Server.setClock]
        simpa using hle

/-- After time has passed nothing can move. -/
theorem Reachable.moves_advance (h : Reachable s) (hmoves : s.moves = []) (milliseconds : Nat) :
  (s.advance milliseconds).moves = []
  := h.moves_advanceIn _ _ hmoves (Nat.le_refl _) (Nat.le_add_right _ _)

end Server

namespace Session

open Server

/-- After a step and everything that follows from it, nothing can move. -/
theorem Reachable.moves_after {session : Session} (h : Reachable session) (index : Nat)
    (step : Step) :
  (session.after index step).server.moves = []
  := by
  have hsettled := (h.happen (.perform index step)).settle
  exact hsettled.server.moves_advance (moves_settle _) step.duration

/-- Nothing follows from a step that takes no time and leaves nothing that can move. -/
theorem Reachable.after_eq_perform {session : Session} (h : Reachable session) {index : Nat}
    {step : Step} (hduration : step.duration = 0)
    (hmoves : (session.perform index step).1.server.moves = []) :
  session.after index step = (session.perform index step).1
  := by
  have hperformed : (session.perform index step).1.Reachable := h.happen (.perform index step)
  rw [Session.after, hduration, settle_of_moves hmoves, hperformed.server.advance_zero hmoves]
  rfl

/-- Between the steps of a script nothing can move. -/
theorem Reachable.moves_runFrom (steps : List Step) :
  ∀ {session : Session} (index : Nat), Reachable session → session.server.moves = [] →
    (session.runFrom index steps).server.moves = []
  := by
  induction steps with
  | nil =>
    intro session index h hmoves
    apply hmoves
  | cons step rest ih =>
    intro session index h hmoves
    apply ih (index + 1) (h.after index step) (h.moves_after index step)

/-! ### Everything is done -/

/-- Where nothing can move, everything is done after as much time as all waits together may
take. -/
theorem Reachable.isComplete_advanceIn (target n : Nat) :
  ∀ {session : Session}, Reachable session → session.server.moves = [] →
    session.server.load ≤ n → session.server.clock + n * longestWait ≤ target →
    (session.server.advanceIn target n).IsComplete
  := by
  induction n with
  | zero =>
    intro session h hmoves hload htarget
    apply h.server.isComplete hmoves (h.server.deadlines_eq_nil hload)
  | succ n ih =>
    intro session h hmoves hload htarget
    rw [Nat.succ_mul] at htarget
    rw [Server.advanceIn]
    split
    · rename_i hnone
      have hdeadlines : session.server.deadlines = [] := by
        apply List.eq_nil_iff_forall_not_mem.mpr
        intro deadline hmem
        have hle := h.server.deadline_le hmem
        have hlate := List.filter_eq_nil_iff.mp (List.min?_eq_none_iff.mp hnone) deadline hmem
        apply hlate
        simp only [decide_eq_true_eq]
        omega
      apply h.server.isComplete hmoves hdeadlines
    · rename_i time htime
      obtain ⟨hmem, -⟩ := List.min?_eq_some_iff.mp htime
      obtain ⟨hdeadline, -⟩ := List.mem_filter.mp hmem
      have hlater := h.server.clock_lt hmoves hdeadline
      have hsoon := h.server.deadline_le hdeadline
      have hlt := load_settle_lt _ (h.server.moves_setClock_ne_nil hdeadline)
      have hsettled := (h.setClock (Nat.le_of_lt hlater)).settle
      apply ih hsettled (moves_settle _)
      · apply Nat.le_of_lt_succ (Nat.lt_of_lt_of_le hlt hload)
      · simp only [withServer, clock_settle, Server.setClock]
        omega

/-- If only time passes then there is a time by which every run has ended and every request is
answered. -/
theorem Reachable.completes {session : Session} (h : Reachable session) (index : Nat) :
  ∃ milliseconds, (session.after index (.advance milliseconds)).server.IsComplete
  := by
  use session.server.settle.load * longestWait
  apply h.settle.isComplete_advanceIn _ _ (moves_settle _) (Nat.le_refl _) (Nat.le_refl _)

end Session

end CommandTimelines
