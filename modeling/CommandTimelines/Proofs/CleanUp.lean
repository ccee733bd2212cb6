import CommandTimelines.Proofs.Body

/-!
# The clean-up

Every run that ends has carried out its whole clean-up, once and in order, after the last
action of its body and before its end, whether it finished or was stopped and whatever its
actions came to. No stop cuts a wait of the clean-up short. And the runs of one timeline come
one after the other: nothing of a run comes about before the end of an earlier one, nor
anything of the earlier one after that.

* `Run.Lived.pairwise_stage` orders what happens in one run.
* `Server.Reachable.pairwise_history` orders what happens in the runs of one timeline.
* `Session.Reachable.cleansUp` puts it together.
-/

namespace CommandTimelines

open Script

/-! ### The stages of a run -/

/-- The stage of a run that a fact belongs to: the body, the clean-up, the end. -/
def Fact.stage : Fact → Nat
  | .began work => if work.ofCleanUp then 1 else 0
  | .over work _ => if work.ofCleanUp then 1 else 0
  | .called (some work) _ => if work.ofCleanUp then 1 else 0
  | .published _ (.finished _ _) => 2
  | _ => 0

/-- The stage that a run in a phase is in. -/
def Phase.stage : Phase → Nat
  | .draining _ => 0
  | .cleaning _ => 1
  | .ended _ => 2

namespace Run

variable {id : RunId} {run : Run} {history : List Entry}

/-- An ended run takes no further step. -/
theorem Next.phase_ne_ended {now : Nat} {run' : Run} {facts : List Fact}
    (h : Next id now run facts run') (hcounted : run.Counted) (cancelled : Bool) :
  run.phase ≠ .ended cancelled
  := by
  intro hended
  have hready := (hcounted.ended cancelled hended).2
  cases h with
  | beginBody hphase _ _ => simp [hended] at hphase
  | beginCleanUp hphase _ _ => simp [hended] at hphase
  | call hcalling _ => simp [hready] at hcalling
  | takeUp hreturned => simp [hready] at hreturned
  | wake hwaiting _ => simp [hready] at hwaiting
  | stop ticket hphase => simp [hended] at hphase
  | drain hphase _ _ => simp [hended] at hphase
  | leave hphase _ => simp [hended] at hphase
  | finish hphase _ _ => simp [hended] at hphase

/-- A run that takes a step has not ended. -/
theorem Next.isRunning_of_counted {now : Nat} {run' : Run} {facts : List Fact}
    (h : Next id now run facts run') (hcounted : run.Counted) :
  run.isRunning
  := by
  have hne := h.phase_ne_ended hcounted
  cases hphase : run.phase with
  | ended cancelled => exact absurd hphase (hne cancelled)
  | _ => simp [Run.isRunning, Run.state, hphase]

/-- What belongs to an action at hand belongs to the stage that the run is in. -/
theorem stage_of_isCleaning (hne : ∀ cancelled, run.phase ≠ .ended cancelled) :
  (if run.isCleaning then 1 else 0) = run.phase.stage
  := by
  cases hphase : run.phase with
  | ended cancelled => exact absurd hphase (hne cancelled)
  | _ => simp [isCleaning, hphase, Phase.stage]

/-- All that comes about by a step of a run belongs to one stage, between the one that the run
was in and the one that it is in then. -/
theorem Next.exists_stage {now : Nat} {run' : Run} {facts : List Fact}
    (h : Next id now run facts run') (hcounted : run.Counted) :
  ∃ n, run.phase.stage ≤ n ∧ n ≤ run'.phase.stage ∧ ∀ fact ∈ facts, fact.stage = n
  := by
  have hstage := stage_of_isCleaning (h.phase_ne_ended hcounted)
  cases h with
  | beginBody hphase hready hnext =>
    refine ⟨0, by simp [hphase, Phase.stage], Nat.zero_le _, ?_⟩
    intro fact hfact
    rcases List.mem_cons.mp hfact with rfl | hfact
    · rfl
    · rw [Work.eq_of_mem_atOnce hfact]
      rfl
  | beginCleanUp hphase hready hnext =>
    refine ⟨1, by simp [hphase, Phase.stage], by simp [hphase, Phase.stage], ?_⟩
    intro fact hfact
    rcases List.mem_cons.mp hfact with rfl | hfact
    · rfl
    · rw [Work.eq_of_mem_atOnce hfact]
      rfl
  | call hcalling hmakes =>
    refine ⟨_, Nat.le_refl _, Nat.le_refl _, ?_⟩
    intro fact hfact
    obtain ⟨call, -, rfl⟩ := List.mem_map.mp hfact
    apply hstage
  | takeUp hreturned =>
    refine ⟨_, Nat.le_refl _, Nat.le_refl _, ?_⟩
    intro fact hfact
    rcases List.mem_cons.mp hfact with rfl | hfact
    · apply hstage
    · rw [failure] at hfact
      split at hfact
      · rename_i hphase
        obtain ⟨e, -, rfl⟩ := List.mem_map.mp hfact
        rw [hphase]
        rfl
      · cases hfact
  | wake hwaiting hdue =>
    refine ⟨_, Nat.le_refl _, Nat.le_refl _, ?_⟩
    intro fact hfact
    obtain rfl := List.mem_singleton.mp hfact
    apply hstage
  | stop ticket hphase =>
    exact ⟨0, by simp [hphase, Phase.stage], Nat.zero_le _, by simp [Fact.stage]⟩
  | drain hphase hready hnext =>
    exact ⟨0, by simp [hphase, Phase.stage], Nat.zero_le _, by simp [Fact.stage]⟩
  | leave hphase hready => exact ⟨0, by simp [hphase, Phase.stage], Nat.zero_le _, by simp⟩
  | finish hphase hready hnext =>
    exact ⟨2, by simp [hphase, Phase.stage], Nat.le_refl _, by simp [Fact.stage]⟩

/-- What has come about in a run belongs to the stages up to the one that the run is in. -/
theorem Lived.stage_le (h : Lived id run history) :
  ∀ entry ∈ history, entry.fact.stage ≤ run.phase.stage
  := by
  induction h with
  | launched key body cleanUp time => simp [Fact.stage]
  | @next run run' history now facts hlived hnext htime ih =>
    obtain ⟨n, hle, hle', hfacts⟩ := hnext.exists_stage hlived.counted
    intro entry hentry
    rcases List.mem_append.mp hentry with hentry | hentry
    · apply Nat.le_trans (ih entry hentry) (Nat.le_trans hle hle')
    · obtain ⟨fact, hfact, rfl⟩ := List.mem_map.mp hentry
      rw [hfacts fact hfact]
      apply hle'

/-- The body comes before the clean-up, and the clean-up before the end. A failure of a step
that is published belongs to the body. -/
theorem Lived.pairwise_stage (h : Lived id run history) :
  history.Pairwise fun entry later => entry.fact.stage ≤ later.fact.stage
  := by
  induction h with
  | launched key body cleanUp time => apply List.pairwise_singleton
  | @next run run' history now facts hlived hnext htime ih =>
    obtain ⟨n, hle, hle', hfacts⟩ := hnext.exists_stage hlived.counted
    apply pairwise_append_of_forall ih
    intro entry hentry later hlater
    obtain ⟨fact, hfact, rfl⟩ := List.mem_map.mp hlater
    rw [hfacts fact hfact]
    rcases List.mem_append.mp hentry with hentry | hentry
    · apply Nat.le_trans (hlived.stage_le entry hentry) hle
    · obtain ⟨fact', hfact', rfl⟩ := List.mem_map.mp hentry
      apply Nat.le_of_eq (hfacts fact' hfact')

/-- The end of a run is the last thing in its history. -/
theorem Lived.exists_finished (h : Lived id run history) {cancelled : Bool}
    (hended : run.phase = .ended cancelled) :
  ∃ front time, history = front ++ [⟨time, .published id (.finished run.key cancelled)⟩]
  := by
  cases h with
  | launched key body cleanUp time => cases hended
  | @next run run' history now facts hlived hnext htime =>
    have hne := hnext.phase_ne_ended hlived.counted cancelled
    cases hnext with
    | finish hphase hready hnext =>
      cases hended
      exact ⟨history, now, rfl⟩
    | stop ticket hphase => cases hended
    | drain hphase hready hnext => cases hended
    | leave hphase hready => cases hended
    | _ => exact absurd hended hne

/-- A run that is not running has ended in one way or the other. -/
theorem exists_ended (h : run.isRunning = false) :
  ∃ cancelled, run.phase = .ended cancelled
  := by
  cases hphase : run.phase with
  | ended cancelled => exact ⟨cancelled, rfl⟩
  | _ => simp [isRunning, state, hphase] at h

/-- A run that has ended has begun its whole clean-up. -/
theorem Lived.begun_eq_cleanUp (h : Lived id run history) {cancelled : Bool}
    (hended : run.phase = .ended cancelled) :
  Entry.begun true history = run.cleanUp
  := by
  rw [h.cleaned_eq, (h.counted.ended cancelled hended).1, List.take_length]

end Run

/-! ### The runs of a timeline -/

namespace Server

variable {s : Server}

/-- Two entries are in the order of the runs that they tell of, if these are runs of one
timeline. -/
def Ordered (s : Server) (entry later : Entry) : Prop :=
  ∀ i j, entry.fact.run? = some i → later.fact.run? = some j → s.runName i = s.runName j → i ≤ j

/-- Entries of a history stay in order as long as the runs keep their names. -/
theorem Historic.pairwise_congr {t : Server} (h : s.Historic)
    (hpairwise : s.history.Pairwise s.Ordered)
    (hname : ∀ id < s.runs.length, t.runName id = s.runName id) :
  s.history.Pairwise t.Ordered
  := by
  apply hpairwise.imp_of_mem
  intro entry later hentry hlater hordered i j hi hj hkey
  have hlt := h.lt_length entry (List.mem_reverse.mp hentry) i hi
  have hlt' := h.lt_length later (List.mem_reverse.mp hlater) j hj
  rw [hname i hlt, hname j hlt'] at hkey
  apply hordered i j hi hj hkey

/-- Entries that tell of no run do not matter. -/
theorem pairwise_history_of_none {facts : List Fact}
    (h : s.history.Pairwise s.Ordered) (hfacts : ∀ fact ∈ facts, fact.run? = none) :
  (s.journalWith facts).reverse.Pairwise s.Ordered
  := by
  rw [reverse_journalWith]
  apply pairwise_append_of_forall h
  intro entry hentry later hlater i j hi hj
  obtain ⟨fact, hfact, rfl⟩ := List.mem_map.mp hlater
  rw [hfacts fact hfact] at hj
  cases hj

/-- What comes about in the runs of one timeline comes about in the order of the runs. -/
theorem Reachable.pairwise_history (h : Reachable s) :
  s.history.Pairwise s.Ordered
  := by
  induction h with
  | new settings commands awaiting => apply List.Pairwise.nil
  | @change s t hs hchange ih =>
    cases hchange with
    | aside commands awaiting hturns hclock => apply ih
    | record fact hrun hstops =>
      have hfacts : ∀ fact' ∈ [fact], fact'.run? = none := by simpa using hrun
      apply pairwise_history_of_none ih hfacts
    | enroll key =>
      obtain ⟨timelines, heq⟩ := enroll_eq s key
      rw [heq]
      apply ih
    | launch o body cleanUp hidle hknown hbody hcleanUp =>
      rw [history, reverse_journalWith]
      apply pairwise_append_of_forall
      · apply hs.historic.pairwise_congr ih
        intro id hlt
        simp [runName, List.getElem?_append_left hlt]
      · intro entry hentry later hlater i j hi hj hkey
        obtain ⟨fact, hfact, rfl⟩ := List.mem_map.mp hlater
        obtain rfl := List.mem_singleton.mp hfact
        obtain rfl := Option.some.inj hj
        rcases List.mem_append.mp hentry with hentry | hentry
        · apply Nat.le_of_lt
          apply hs.historic.lt_length entry (List.mem_reverse.mp hentry) i hi
        · obtain ⟨fact, hfact, rfl⟩ := List.mem_map.mp hentry
          obtain rfl := List.mem_singleton.mp hfact
          apply Nat.le_of_eq (Option.some.inj hi).symm
    | @work id run run' facts pending hrun hnext hfollows =>
      have hlt := (List.getElem?_eq_some_iff.mp hrun).1
      have hname : ∀ other, runName { s with runs := s.runs.set id run' } other
          = s.runName other := by
        intro other
        by_cases hother : other = id
        · rw [hother]
          simp only [runName, List.getElem?_set_self hlt, hrun, hnext.key_eq.1]
        · simp [runName, List.getElem?_set_ne (Ne.symm hother)]
      rw [history, reverse_journalWith]
      apply pairwise_append_of_forall
      · apply hs.historic.pairwise_congr ih
        intro other hother
        apply hname
      · intro entry hentry later hlater i j hi hj hkey
        obtain ⟨fact, hfact, rfl⟩ := List.mem_map.mp hlater
        obtain rfl := Option.some.inj ((hnext.run?_eq hfact).symm.trans hj)
        rcases List.mem_append.mp hentry with hentry | hentry
        · -- The run that takes a step is the latest one of its timeline.
          have hlt := hs.historic.lt_length entry (List.mem_reverse.mp hentry) i hi
          have hi' := List.getElem?_eq_getElem hlt
          have hrunning := hnext.isRunning_of_counted (hs.lived hrun).counted
          obtain ⟨current, hcurrent, hle, -⟩ := hs.kept.current_of_run i _ hi'
          obtain ⟨current', hcurrent', -, honly⟩ := hs.kept.current_of_run id run hrun
          have hsame : s.runs[i].key = run.key := by
            have hnames := (hname i).symm.trans (hkey.trans (hname id))
            simpa [runName, hi', hrun] using hnames
          rw [hsame, hcurrent'] at hcurrent
          rw [honly hrunning, Option.some.inj hcurrent]
          apply hle
        · obtain ⟨fact', hfact', rfl⟩ := List.mem_map.mp hentry
          obtain rfl := Option.some.inj ((hnext.run?_eq hfact').symm.trans hi)
          apply Nat.le_refl
    | serve hserved =>
      apply pairwise_history_of_none ih fun fact hfact => hserved.run?_eq hfact

/-- Of two runs of one timeline the earlier one has ended. -/
theorem Kept.isRunning_eq_false (h : s.Kept) {i j : RunId} {run run' : Run}
    (hrun : s.runs[i]? = some run) (hrun' : s.runs[j]? = some run') (hkey : run.key = run'.key)
    (hlt : i < j) :
  run.isRunning = false
  := by
  obtain ⟨current, hcurrent, -, honly⟩ := h.current_of_run i run hrun
  obtain ⟨current', hcurrent', hle, -⟩ := h.current_of_run j run' hrun'
  rw [hkey, hcurrent'] at hcurrent
  obtain rfl := Option.some.inj hcurrent
  by_contra hrunning
  have heq := honly (by simpa using hrunning)
  rw [heq] at hlt
  apply Nat.not_lt.mpr hle hlt

/-- Of two runs of one timeline, the earlier one ends before anything comes about in the later
one, and nothing comes about in the earlier one after its end. -/
theorem Reachable.exists_between (h : Reachable s) {i j : RunId} {run run' : Run}
    (hrun : s.runs[i]? = some run) (hrun' : s.runs[j]? = some run') (hkey : run.key = run'.key)
    (hlt : i < j) :
  ∃ before time cancelled after,
    s.history = before ++ ⟨time, .published i (.finished run.key cancelled)⟩ :: after ∧
    (∀ entry ∈ before, entry.fact.run? ≠ some j) ∧
    (∀ entry ∈ after, entry.fact.run? ≠ some i)
  := by
  have hended := h.kept.isRunning_eq_false hrun hrun' hkey hlt
  obtain ⟨cancelled, hphase⟩ := Run.exists_ended hended
  obtain ⟨front, time, hfront⟩ := (h.lived hrun).exists_finished hphase
  obtain ⟨first, second, hhistory, -, hsecond⟩ := List.filter_eq_append_iff.mp hfront
  obtain ⟨middle, after, rfl, hmiddle, -, hafter⟩ := List.filter_eq_cons_iff.mp hsecond
  use first ++ middle, time, cancelled, after
  have hsplit : s.history = (first ++ middle) ++
      ⟨time, .published i (.finished run.key cancelled)⟩ :: after := by
    rw [hhistory, List.append_assoc]
  refine ⟨hsplit, ?_, ?_⟩
  · intro entry hentry hj
    have hordered := h.pairwise_history
    rw [hsplit, List.pairwise_append] at hordered
    have hle := hordered.2.2 entry hentry _ List.mem_cons_self j i hj rfl
      (by simp [runName, hrun, hrun', hkey])
    apply Nat.not_lt.mpr hle hlt
  · intro entry hentry hi
    have hnot := List.filter_eq_nil_iff.mp hafter entry hentry
    simp [Entry.isOf, hi] at hnot

end Server

/-- Whatever happens in a session: the actions of the clean-up that a run has begun are the
first ones of its clean-up, each once and in order, and the whole clean-up as soon as it has
ended, which is the last thing in its history. The body, the clean-up and the end come one
after the other. A wait of the clean-up takes as long as it says, but not longer than waits
last at most. Of two runs of one timeline the earlier one ends before anything of the later
one, and nothing of it comes about after that. And if only time passes then every run ends. -/
theorem Session.Reachable.cleansUp {session : Session} (h : Reachable session) :
  (∀ id run, session.server.runs[id]? = some run →
    Entry.begun true (session.server.historyOf id) = run.cleanUp.take run.cleaned ∧
    (run.isRunning = false →
      Entry.begun true (session.server.historyOf id) = run.cleanUp ∧
      ∃ front time cancelled, session.server.historyOf id
        = front ++ [⟨time, .published id (.finished run.key cancelled)⟩]) ∧
    (session.server.historyOf id).Pairwise
      (fun entry later => entry.fact.stage ≤ later.fact.stage) ∧
    (∃ done atHand, run.Logged id (session.server.historyOf id) done atHand ∧
      ∀ x ∈ done, ∀ line milliseconds, x.work = ⟨id, true, .delay line milliseconds⟩ →
        x.start + min milliseconds Server.longestWait ≤ x.stop)) ∧
  (∀ i j run run', session.server.runs[i]? = some run → session.server.runs[j]? = some run' →
    run.key = run'.key → i < j →
    ∃ before time cancelled after,
      session.server.history
        = before ++ ⟨time, .published i (.finished run.key cancelled)⟩ :: after ∧
      (∀ entry ∈ before, entry.fact.run? ≠ some j) ∧
      (∀ entry ∈ after, entry.fact.run? ≠ some i)) ∧
  (∀ index, ∃ milliseconds,
    (session.after index (.advance milliseconds)).server.IsComplete)
  := by
  refine ⟨?_, ?_, h.completes⟩
  · intro id run hrun
    have hlived := h.server.lived hrun
    refine ⟨hlived.cleaned_eq, ?_, hlived.pairwise_stage, ?_⟩
    · intro hended
      obtain ⟨cancelled, hphase⟩ := Run.exists_ended hended
      obtain ⟨front, time, hfront⟩ := hlived.exists_finished hphase
      exact ⟨hlived.begun_eq_cleanUp hphase, front, time, cancelled, hfront⟩
    · obtain ⟨done, atHand, hlogged⟩ := hlived.logged
      use done, atHand, hlogged
      intro x hx line milliseconds hwork
      apply (hlogged.isProper x hx).elapses line milliseconds <;> rw [hwork]
  · intro i j run run' hrun hrun' hkey hlt
    apply h.server.exists_between hrun hrun' hkey hlt

/-- A timeline that was stopped in its body, and whose clean-up waited to its end. -/
theorem cleansUp_of_stopped_wait :
  let session := (((Session.happen { server := { settings := { cleanUp := ["#wait 7"] } } }
    (.commit ⟨"show", "#wait 5", []⟩)).after 0 (.advance 1)).after 1 (.stop "show")).after 2
    (.advance 7)
  ∃ run, session.server.runs[0]? = some run ∧ run.phase = .ended true ∧
    Entry.begun true (session.server.historyOf 0) = [.delay 1 7]
  := by
  intro session
  have hreachable : session.Reachable :=
    .after (.after (.after (.happen (.new {} { cleanUp := ["#wait 7"] } [] []) _) 0 _) 1 _) 2 _
  obtain ⟨run, hrun⟩ : ∃ run, session.server.runs[0]? = some run :=
    Option.isSome_iff_exists.mp (by decide +kernel)
  have hended : session.server.runs.map (fun run => (run.phase, run.cleanUp))
      = [(.ended true, [.delay 1 7])] := by decide +kernel
  have hphase : run.phase = .ended true ∧ run.cleanUp = [.delay 1 7] := by
    have hmap := congrArg (·[0]?) hended
    simpa [hrun] using hmap
  have hrunning : run.isRunning = false := by simp [Run.isRunning, Run.state, hphase.1]
  have hruns := (Session.Reachable.cleansUp hreachable).1 0 run hrun
  use run, hrun, hphase.1
  rw [(hruns.2.1 hrunning).1, hphase.2]

/-- A wait of the clean-up that says more than thirty years is over after thirty years. -/
theorem cleanUp_wait_falls_short :
  let session := (Session.happen
    { server := { settings := { cleanUp := ["#wait 946080000001"] } } }
    (.commit ⟨"show", "#wait 0", []⟩)).after 0 (.advance 946080000000)
  session.Reachable ∧
  ⟨0, .began ⟨0, true, .delay 1 946080000001⟩⟩ ∈ session.server.historyOf 0 ∧
  ⟨946080000000, .over ⟨0, true, .delay 1 946080000001⟩ none⟩ ∈ session.server.historyOf 0 ∧
  ¬ 0 + 946080000001 ≤ 946080000000
  := by
  intro session
  have hreachable : session.Reachable :=
    .after (.happen (.new {} { cleanUp := ["#wait 946080000001"] } [] []) _) 0 _
  exact ⟨hreachable, by decide +kernel, by decide +kernel, by decide⟩

end CommandTimelines
