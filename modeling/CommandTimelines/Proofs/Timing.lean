import CommandTimelines.Proofs.Pace
import CommandTimelines.Proofs.Punctual

/-!
# The times of a run

In a punctual session every run keeps its pace, whatever other runs do meanwhile and however the
time is split (`Session.Punctual.isOnTime`). So the history of a run tells exactly when each of its
actions begins and when it ends: `Server.BodyTimes` and `Server.CleanUpTimes` say how, and
`Session.Punctual.keepsTime` says it of all runs.
-/

namespace CommandTimelines

open Script

/-! ### The runs of a server -/

namespace Server

variable {s t : Server}

/-- Whether each run of a server is on time since its start. -/
def IsOnTime (s : Server) : Prop :=
  ∀ id run, s.runs[id]? = some run → ∃ start,
    (∃ rest, s.historyOf id = ⟨start, .published id (.started run.key run.body.length)⟩ :: rest)
    ∧ run.OnTime id (s.historyOf id) s.clock start

theorem IsOnTime.congr (h : s.IsOnTime) (hruns : t.runs = s.runs) (hclock : t.clock = s.clock)
    (hhistory : ∀ id, t.historyOf id = s.historyOf id) :
  t.IsOnTime
  := by
  intro id run hrun
  rw [hhistory, hclock]
  apply h id run
  rwa [hruns] at hrun

theorem IsOnTime.launch (h : s.IsOnTime) (hhistoric : s.Historic) (turns : List RunId)
    (timelines : List Timeline) (key : String) (body cleanUp : List Action) :
  IsOnTime { s with
    runs := s.runs ++ [({ key, body, cleanUp } : Run)]
    turns
    timelines
    journal := s.journalWith [.published s.runs.length (.started key body.length)] }
  := by
  have hrun? : ∀ fact ∈ [Fact.published s.runs.length (.started key body.length)],
      fact.run? = some s.runs.length := by
    intro fact hfact
    rw [List.mem_singleton.mp hfact]
    rfl
  intro id run hrun
  rw [historyOf, history, filter_reverse_journalWith]
  by_cases hid : id = s.runs.length
  · subst hid
    obtain rfl : { key, body, cleanUp } = run := by simpa using hrun
    rw [filter_isOf_self hrun?, hhistoric.historyOf_eq_nil (Nat.le_refl _), List.nil_append]
    exact ⟨s.clock, ⟨[], rfl⟩, Run.onTime_launched _ _ _ _ _⟩
  · have hlt := (List.getElem?_eq_some_iff.mp hrun).1
    simp only [List.length_append, List.length_singleton] at hlt
    have hold : id < s.runs.length := Nat.lt_of_le_of_ne (Nat.lt_succ_iff.mp hlt) hid
    rw [filter_isOf_of_ne hrun? hid, List.append_nil]
    apply h id run
    rwa [List.getElem?_append_left hold] at hrun

theorem IsOnTime.work (h : s.IsOnTime) (hhistoric : s.Historic) {id : RunId} {run run' : Run}
    {facts : List Fact} (hrun : s.runs[id]? = some run)
    (hnext : Run.Next id s.clock run facts run') (timelines : List Timeline)
    (pending : List Pending) :
  IsOnTime { s with
    runs := s.runs.set id run', timelines, pending, journal := s.journalWith facts }
  := by
  have hlt := (List.getElem?_eq_some_iff.mp hrun).1
  intro other run'' hrun''
  rw [historyOf, history, filter_reverse_journalWith]
  by_cases hother : other = id
  · subst hother
    obtain rfl : run' = run'' := by simpa [hlt] using hrun''
    rw [filter_isOf_self fun fact hfact => hnext.run?_eq hfact]
    obtain ⟨start, ⟨rest, hstarted⟩, honTime⟩ := h other run hrun
    obtain ⟨hkey, hbody, -⟩ := hnext.key_eq
    refine ⟨start, ⟨rest ++ facts.map (Entry.mk s.clock), ?_⟩, ?_⟩
    · rw [hstarted, hkey, hbody]
      rfl
    · exact honTime.next (hhistoric.lived other run hrun) hnext
  · rw [filter_isOf_of_ne (fun fact hfact => hnext.run?_eq hfact) hother, List.append_nil]
    apply h other run''
    rwa [List.getElem?_set_ne (Ne.symm hother)] at hrun''

/-- A change that takes no time leaves all runs on time. -/
theorem Change.isOnTime (hchange : s.Change t) (h : s.IsOnTime) (hhistoric : s.Historic)
    (hclock : t.clock = s.clock) :
  t.IsOnTime
  := by
  cases hchange with
  | aside commands awaiting hturns hle => exact h.congr rfl hclock fun _ => rfl
  | record fact hrun hstops =>
    have hhistory : ∀ id, (s.record fact).historyOf id = s.historyOf id := by
      have hnone : ∀ fact' ∈ [fact], fact'.run? = none := by simpa using hrun
      exact historyOf_of_none s hnone
    exact h.congr rfl hclock hhistory
  | enroll key =>
    obtain ⟨timelines, heq⟩ := enroll_eq s key
    rw [heq]
    exact h.congr rfl rfl fun _ => rfl
  | launch o body cleanUp hidle hknown hbody hcleanUp => apply h.launch hhistoric
  | work hrun hnext hfollows => apply h.work hhistoric hrun hnext
  | serve hserved =>
    have hhistory := historyOf_of_none s fun fact hfact => hserved.run?_eq hfact
    exact h.congr rfl hclock hhistory

/-- The clock is not put back. -/
theorem Change.clock_le (h : s.Change t) :
  s.clock ≤ t.clock
  := by
  cases h with
  | aside commands awaiting hturns hclock => exact hclock
  | enroll key =>
    obtain ⟨timelines, heq⟩ := enroll_eq s key
    rw [heq]
  | _ => exact Nat.le_refl _

theorem Changes.clock_le (h : Changes s t) :
  s.clock ≤ t.clock
  := by
  induction h with
  | refl => exact Nat.le_refl _
  | tail _ hchange ih => exact Nat.le_trans ih hchange.clock_le

theorem Changes.isOnTime (hchanges : Changes s t) (h : s.IsOnTime) (hreachable : s.Reachable)
    (hclock : t.clock = s.clock) :
  t.IsOnTime
  := by
  induction hchanges with
  | refl => exact h
  | @tail between t hbetween hchange ih =>
    -- The clock shows the same all along, as it is never put back.
    have hle := Changes.clock_le hbetween
    have hle' := hchange.clock_le
    have hsame : between.clock = s.clock := by omega
    apply hchange.isOnTime (ih hsame) (hreachable.changes hbetween).historic
    rw [hclock, hsame]

end Server

/-! ### Punctual sessions -/

namespace Session

/-- The runs of a punctual session are on time. -/
theorem Punctual.isOnTime {session : Session} (h : session.Punctual) :
  session.server.IsOnTime
  := by
  induction h with
  | new files settings commands awaiting =>
    intro id run hrun
    cases hrun
  | @happen session h x hx ih =>
    by_cases hpass : ∃ milliseconds, x = .pass milliseconds
    · obtain ⟨milliseconds, rfl⟩ := hpass
      obtain ⟨hmoves, hdue⟩ := hx
      intro id run hrun
      obtain ⟨start, hstarted, honTime⟩ := ih id run hrun
      refine ⟨start, hstarted, ?_⟩
      have hcan := h.reachable.server.canWork_eq_false hmoves id
      have hrun' : session.server.runs[id]? = some run := hrun
      rw [Server.canWork, hrun'] at hcan
      apply honTime.pass hcan
      intro line milliseconds' deadline hwaiting
      apply hdue
      apply List.mem_filterMap.mpr
      use run, List.mem_of_getElem? hrun'
      simp only [hwaiting]
    · apply (session.happen_changes x).isOnTime ih h.reachable.server
      exact session.clock_happen (not_exists.mp hpass)

end Session

/-! ### Where nothing can move -/

namespace Run

variable {id : RunId} {run : Run} {history : List Entry} {now start : Nat}

/-- Where a run cannot move, the instant that it is held up to is still to come. -/
theorem lt_of_isDue {due : Nat} (hdue : run.activity.IsDue now due)
    (hcan : run.canMove now = false) (hphase : ∀ cancelled, run.phase ≠ .ended cancelled) :
  now < due
  := by
  rw [canMove] at hcan
  cases hactivity : run.activity with
  | ready =>
    rw [hactivity] at hcan
    cases hended : run.phase with
    | ended cancelled => exact absurd hended (hphase cancelled)
    | _ => simp [hended] at hcan
  | waiting line milliseconds deadline =>
    rw [hactivity] at hdue hcan
    obtain ⟨rfl, -⟩ := hdue
    simp only [Bool.or_eq_false_iff, decide_eq_false_iff_not] at hcan
    omega
  | calling action => simp [hactivity] at hcan
  | returned action error => simp [hactivity] at hcan

/-- Of actions that begin as they are scheduled, each that is due has begun if the next one is
not. -/
theorem lt_of_waits {actions : List Action} {m k time now : Nat}
    (hlater : now < time + waits (actions.take m)) (hdue : time + waits (actions.take k) ≤ now) :
  k < m
  := by
  by_contra hle
  have hwaits := waits_take_le actions (Nat.le_of_not_lt hle)
  omega

theorem OnTime.length_beginnings (h : run.OnTime id history now start)
    (hlived : Lived id run history) :
  (Entry.beginnings false history).length = run.begun
  := by
  rw [h.body_eq, length_schedule, List.length_take, Nat.min_eq_left hlived.counted.begun_le]

theorem ClosesOnTime.length_beginnings {time : Nat} (h : run.ClosesOnTime id history now time)
    (hlived : Lived id run history) :
  (Entry.beginnings true history).length = run.cleaned
  := by
  rw [h.cleanUp_eq, length_schedule, List.length_take, Nat.min_eq_left hlived.counted.cleaned_le]

/-- What begins as it is scheduled are the first actions, each when those before it have held up
the run. -/
theorem of_getElem?_schedule {actions : List Action} {n k time t : Nat} {action : Action}
    (h : (schedule time (actions.take n))[k]? = some (t, action)) :
  actions[k]? = some action ∧ t = time + waits (actions.take k)
  := by
  rw [getElem?_schedule] at h
  obtain ⟨found, hfound, heq⟩ := Option.map_eq_some_iff.mp h
  obtain ⟨rfl, rfl⟩ := Prod.mk.inj heq
  have hlt : k < n := by
    by_contra hle
    rw [List.getElem?_take_eq_none (Nat.le_of_not_lt hle)] at hfound
    cases hfound
  rw [List.getElem?_take_of_lt hlt] at hfound
  rw [List.take_take, Nat.min_eq_left (Nat.le_of_lt hlt)]
  exact ⟨hfound, rfl⟩

end Run

/-! ### When actions begin -/

namespace Server

/-- When the actions of the body of a run begin that was started at a time. -/
structure BodyTimes (s : Server) (id : RunId) (run : Run) (start : Nat) : Prop where
  /-- Each action begins when the waits before it are over. -/
  begins : ∀ k time action,
    (Entry.beginnings false (s.historyOf id))[k]? = some (time, action) →
    run.body[k]? = some action ∧ time = start + waits (run.body.take k)
  /-- As long as the end has not been claimed, each action has begun that is due. -/
  prompt : s.moves = [] → Entry.claims (s.historyOf id) = [] →
    ∀ k < run.body.length, start + waits (run.body.take k) ≤ s.clock →
      k < (Entry.beginnings false (s.historyOf id)).length
  /-- The end is claimed when all waits are over, if not before. -/
  unclaimed : s.moves = [] → Entry.claims (s.historyOf id) = [] →
    s.clock < start + waits run.body

/-- When the actions of the clean-up of a run begin and the run ends, if it was started at the time
`start` and its end was claimed at the time `time`. -/
structure CleanUpTimes (s : Server) (id : RunId) (run : Run) (start time : Nat)
    (stop : Option Ticket) : Prop where
  /-- A run claims its own end when all waits of its body are over. -/
  own : stop = none → time = start + waits run.body
  /-- Each action begins when the waits of the clean-up before it are over. -/
  begins : ∀ k t action, (Entry.beginnings true (s.historyOf id))[k]? = some (t, action) →
    run.cleanUp[k]? = some action ∧ t = time + waits (run.cleanUp.take k)
  /-- Each action has begun that is due. -/
  prompt : s.moves = [] → ∀ k < run.cleanUp.length, time + waits (run.cleanUp.take k) ≤ s.clock →
    k < (Entry.beginnings true (s.historyOf id)).length
  /-- The run ends when all waits of the clean-up are over. -/
  finished : ∀ t cancelled, ⟨t, .published id (.finished run.key cancelled)⟩ ∈ s.historyOf id →
    t = time + waits run.cleanUp
  /-- The run has ended when that is due. -/
  ended : s.moves = [] → time + waits run.cleanUp ≤ s.clock → ∃ cancelled,
    ⟨time + waits run.cleanUp, .published id (.finished run.key cancelled)⟩ ∈ s.historyOf id

variable {s : Server} {id : RunId} {run : Run} {start : Nat}

theorem Reachable.bodyTimes (h : s.Reachable) (hrun : s.runs[id]? = some run)
    (honTime : run.OnTime id (s.historyOf id) s.clock start) :
  s.BodyTimes id run start
  := by
  have hlived := h.lived hrun
  have hlate : s.moves = [] → Entry.claims (s.historyOf id) = [] →
      s.clock < start + waits (run.body.take run.begun) := by
    intro hmoves hclaims
    have hphase := hlived.claimed.eq_nil_iff.mp hclaims
    have hcan := h.canWork_eq_false hmoves id
    rw [canWork, hrun] at hcan
    exact Run.lt_of_isDue (honTime.draining hphase) hcan (by simp [hphase])
  constructor
  · intro k time action hk
    rw [honTime.body_eq] at hk
    exact Run.of_getElem?_schedule hk
  · intro hmoves hclaims k _ hdue
    rw [honTime.length_beginnings hlived]
    exact Run.lt_of_waits (hlate hmoves hclaims) hdue
  · intro hmoves hclaims
    have hall := waits_take_le run.body hlived.counted.begun_le
    rw [List.take_length] at hall
    have hbefore := hlate hmoves hclaims
    omega

theorem Reachable.cleanUpTimes (h : s.Reachable) (hrun : s.runs[id]? = some run)
    (honTime : run.OnTime id (s.historyOf id) s.clock start) {time : Nat} {stop : Option Ticket}
    (hclaimed : ⟨time, .claimed id stop⟩ ∈ s.historyOf id) :
  s.CleanUpTimes id run start time stop
  := by
  have hlived := h.lived hrun
  have hcloses := honTime.claimed time stop hclaimed
  -- Where nothing can move, a run whose end is claimed is cleaning up, and waits, or has ended.
  have hsettled : s.moves = [] → s.clock < time + waits (run.cleanUp.take run.cleaned)
      ∨ ∃ cancelled, run.phase = .ended cancelled := by
    intro hmoves
    have hcan := h.canWork_eq_false hmoves id
    rw [canWork, hrun] at hcan
    cases hphase : run.phase with
    | draining stopping =>
      cases stopping with
      | false => exact absurd hclaimed (hlived.claimed_not_mem hphase time stop)
      | true =>
        have hmove := Run.canMove_of_stopping hphase s.clock
        simp only [hmove] at hcan
        cases hcan
    | cleaning cancelled =>
      exact .inl (Run.lt_of_isDue (hcloses.cleaning cancelled hphase) hcan (by simp [hphase]))
    | ended cancelled => exact .inr ⟨cancelled, rfl⟩
  constructor
  · rintro rfl
    exact honTime.own time hclaimed
  · intro k t action hk
    rw [hcloses.cleanUp_eq] at hk
    exact Run.of_getElem?_schedule hk
  · intro hmoves k hk hdue
    rw [hcloses.length_beginnings hlived]
    obtain hlate | ⟨cancelled, hphase⟩ := hsettled hmoves
    · exact Run.lt_of_waits hlate hdue
    · rw [(hlived.counted.ended cancelled hphase).1]
      exact hk
  · exact hcloses.finished
  · intro hmoves hdue
    obtain hlate | ⟨cancelled, hphase⟩ := hsettled hmoves
    · have hall := waits_take_le run.cleanUp hlived.counted.cleaned_le
      rw [List.take_length] at hall
      omega
    · obtain ⟨front, t, hfront⟩ := hlived.exists_finished hphase
      have hmem : ⟨t, .published id (.finished run.key cancelled)⟩ ∈ s.historyOf id := by
        rw [hfront]
        exact List.mem_append_right _ (List.mem_singleton_self _)
      obtain rfl := hcloses.finished t cancelled hmem
      exact ⟨cancelled, hmem⟩

end Server

/-- When things happen in a run, however scripts of steps split the time and whatever other runs
do. Let a run be started at a time. Each action of its body begins when the waits before it
are over. The run claims its own end when all waits of its body are over, unless a stop has claimed
it before; once it is claimed no further action of the body begins. Whoever claims it, and however
much was left of a wait then, each action of the clean-up begins when the waits of the clean-up
before it are over, counted from the very instant of the claim, and the run ends when all of them
are. A wait lasts as long as it says, but not longer than any wait. -/
theorem Session.Punctual.keepsTime {session : Session} (h : session.Punctual) :
  (∀ index step, (session.after index step).Punctual
    ∧ (session.after index step).server.moves = [])
  ∧ ∀ id run, session.server.runs[id]? = some run → ∃ start,
    (∃ rest, session.server.historyOf id
      = ⟨start, .published id (.started run.key run.body.length)⟩ :: rest)
    ∧ session.server.BodyTimes id run start
    ∧ (session.server.historyOf id).Pairwise (fun entry later =>
      entry.fact.claim?.isSome → ∀ action, later.fact ≠ .began ⟨id, false, action⟩)
    ∧ ∀ time stop, ⟨time, .claimed id stop⟩ ∈ session.server.historyOf id →
      session.server.CleanUpTimes id run start time stop
  := by
  have hserver := h.reachable.server
  constructor
  · intro index step
    exact ⟨h.after index step, h.reachable.moves_after index step⟩
  · intro id run hrun
    obtain ⟨start, hstarted, honTime⟩ := h.isOnTime id run hrun
    refine ⟨start, hstarted, hserver.bodyTimes hrun honTime,
      (hserver.lived hrun).pairwise_claimed, ?_⟩
    intro time stop hclaimed
    exact hserver.cleanUpTimes hrun honTime hclaimed

/-- A timeline that is stopped while it waits, beside another one, and whose clean-up waits. -/
theorem Session.Punctual.keepsTime_of_stopped_wait :
  let session := ((((Session.happen
    (Session.happen { server := { settings := { cleanUp := ["#wait 3", "bye"] } } }
    (.commit ⟨"show", "#wait 5\nhi\n#wait 7", []⟩)) (.commit ⟨"other", "#wait 4\n#wait 4", []⟩)
    ).after 0 (.advance 6)).after 1 (.advance 3)).after 2 (.stop "show")).after 3 (.advance 8)
  (∃ run start, session.server.runs[0]? = some run ∧ session.server.BodyTimes 0 run start
    ∧ session.server.CleanUpTimes 0 run start 9 (some ⟨some 2, "show"⟩))
  ∧ Entry.beginnings false (session.server.historyOf 0)
    = [(0, .delay 1 5), (5, .deliver 2 "hi" "hi" []), (5, .delay 3 7)]
  ∧ Entry.beginnings true (session.server.historyOf 0)
    = [(9, .delay 1 3), (12, .deliver 2 "bye" "bye" [])]
  ∧ ⟨12, .published 0 (.finished "show" true)⟩ ∈ session.server.historyOf 0
  := by
  intro session
  have hpunctual : session.Punctual :=
    .after (.after (.after (.after (.happen (.happen
      (.new {} { cleanUp := ["#wait 3", "bye"] } [] []) (.commit _) trivial) (.commit _) trivial)
      0 _) 1 _) 2 _) 3 _
  obtain ⟨run, hrun⟩ : ∃ run, session.server.runs[0]? = some run :=
    Option.isSome_iff_exists.mp (by decide +kernel)
  obtain ⟨start, -, hbody, -, hcleanUp⟩ := hpunctual.keepsTime.2 0 run hrun
  have hclaimed : ⟨9, .claimed 0 (some ⟨some 2, "show"⟩)⟩ ∈ session.server.historyOf 0 := by
    decide +kernel
  exact ⟨⟨run, start, hrun, hbody, hcleanUp _ _ hclaimed⟩, by decide +kernel, by decide +kernel,
    by decide +kernel⟩

/-- A wait of the body that says more than thirty years is over after thirty years, and the next
action begins then. -/
theorem body_wait_falls_short :
  let session := (Session.happen {} (.commit ⟨"show", "#wait 946080000001\nhi", []⟩)).after 0
    (.advance 946080000000)
  session.Punctual
  ∧ session.server.runs.map (·.body) = [[.delay 1 946080000001, .deliver 2 "hi" "hi" []]]
  ∧ ⟨0, .published 0 (.started "show" 2)⟩ ∈ session.server.historyOf 0
  ∧ (Entry.beginnings false (session.server.historyOf 0))[1]?
    = some (946080000000, .deliver 2 "hi" "hi" [])
  ∧ (∀ entry ∈ session.server.historyOf 0, ∀ ticket, entry.fact ≠ .claimed 0 (some ticket))
  ∧ 946080000000 ≠ 0 + 946080000001
  := by
  intro session
  have hpunctual : session.Punctual := .after (.happen (.new {} {} [] []) (.commit _) trivial) 0 _
  have hclaims : Entry.claims (session.server.historyOf 0) = [none] := by decide +kernel
  have hunclaimed : ∀ entry ∈ session.server.historyOf 0, ∀ ticket,
      entry.fact ≠ .claimed 0 (some ticket) := by
    intro entry hentry ticket heq
    have hmem : some ticket ∈ Entry.claims (session.server.historyOf 0) :=
      List.mem_filterMap.mpr ⟨_, List.mem_map_of_mem hentry, by rw [heq]; rfl⟩
    rw [hclaims] at hmem
    simp at hmem
  exact ⟨hpunctual, by decide +kernel, by decide +kernel, by decide +kernel, hunclaimed,
    by decide⟩

end CommandTimelines
