import CommandTimelines.Proofs.Winding

/-!
# Stopping all timelines in any order

A stop of all timelines looks at one after the other, in an order that nobody knows. Where nothing
can move, no handler may stop a timeline and no clean-up waits, this makes no difference: whatever
the order, and however runs and requests take turns, the stop is answered at once, every run that
was running is cancelled at that instant, and everything else stays as it is (`Server.Swept`).

* `Server.Winding` says what may become of the runs meanwhile.
* `Server.Sweeping` follows the stop itself: it is the only stop that is waiting, and its answer is
  the only one that tells of a stop.
* `Server.Looking` says that the stop has claimed the end of each run when it is answered.

How many runs it says it has stopped follows from that: it is the number of ends that are marked
cancelled.
-/

namespace CommandTimelines

open Host Script Text

/-! ### Cancelled runs -/

/-- How many ends that are marked cancelled a run in a phase has published. -/
def Phase.cancellations : Phase → Nat
  | .ended true => 1
  | _ => 0

/-- A step of a run that publishes a cancelled end makes the run a cancelled one. -/
theorem Run.Next.cancelledEnds_eq {id : RunId} {now : Nat} {run run' : Run} {facts : List Fact}
    (h : Run.Next id now run facts run') :
  (facts.map Fact.cancelledEnds).sum + run.phase.cancellations = run'.phase.cancellations
  := by
  rw [Fact.sum_map_eq Fact.cancelledEnds_of_isOfExecution]
  have houtcome := h.outcome
  generalize facts.filter (!·.isOfExecution) = outcome at houtcome ⊢
  cases houtcome with
  | same hphase => rw [hphase]; exact Nat.zero_add _
  | failed stopping line error hphase hphase' => rw [hphase, hphase']; rfl
  | stop ticket hphase hphase' => rw [hphase, hphase']; rfl
  | drain hphase hphase' => rw [hphase, hphase']; rfl
  | leave hphase hphase' => rw [hphase, hphase']; rfl
  | finish cancelled hphase hphase' => rw [hphase, hphase']; cases cancelled <;> rfl

namespace Server

variable {s t : Server}

/-- There are as many ends that are marked cancelled as cancelled runs. -/
theorem Reachable.cancelledEnds_eq (h : s.Reachable) :
  Entry.total Fact.cancelledEnds s.journal = (s.runs.map (·.phase.cancellations)).sum
  := by
  induction h with
  | new settings commands awaiting => rfl
  | @change s t hs hchange ih =>
    cases hchange with
    | aside commands awaiting hturns hclock => exact ih
    | record fact hrun hstops =>
      have hends := Fact.cancelledEnds_of_run?_eq_none hrun
      simp only [record, Entry.total, List.map_cons, List.sum_cons, hends, Nat.zero_add]
      exact ih
    | enroll key =>
      obtain ⟨timelines, heq⟩ := enroll_eq s key
      rw [heq]
      exact ih
    | launch o body cleanUp hidle hknown hbody hcleanUp =>
      simp only [total_journalWith, sum_map_concat]
      simpa [Fact.cancelledEnds, Phase.cancellations] using ih
    | @work id run run' facts pending hrun hnext hfollows =>
      have hstep := hnext.cancelledEnds_eq
      have hset := sum_map_set (fun run : Run => run.phase.cancellations) hrun run'
      simp only [total_journalWith]
      omega
    | @serve pending facts hserved =>
      have hends : (facts.map Fact.cancelledEnds).sum = 0 := by
        apply Fact.sum_map_eq_zero
        intro fact hfact
        exact Fact.cancelledEnds_of_run?_eq_none (hserved.run?_eq hfact)
      simp only [total_journalWith, hends, Nat.zero_add]
      exact ih

/-- Runs as they are after all that were running have been stopped. -/
def cutAll (runs : List Run) : List Run :=
  runs.map fun run => if run.isRunning then run.cut else run

/-- When all runs are stopped that are running, as many are cancelled in addition. -/
theorem sum_cancellations_cutAll (runs : List Run) :
  ((cutAll runs).map (·.phase.cancellations)).sum
    = (runs.map (·.phase.cancellations)).sum + runs.countP (·.isRunning)
  := by
  induction runs with
  | nil => rfl
  | cons run runs ih =>
    have hhead : (if run.isRunning then run.cut else run).phase.cancellations
        = run.phase.cancellations + if run.isRunning then 1 else 0 := by
      cases hphase : run.phase with
      | ended cancelled => cases cancelled <;> simp [Run.isRunning, Run.state, hphase]
      | _ => simp [Run.isRunning, Run.state, hphase, Run.cut, Phase.cancellations]
    rw [cutAll] at ih ⊢
    simp only [List.map_cons, List.sum_cons, hhead, ih, List.countP_cons]
    omega

theorem Kept.nodup_keys_of_isRunning (h : s.Kept) :
  ((s.runs.filter (·.isRunning)).map (·.key)).Nodup
  := by
  rw [List.Nodup, List.pairwise_map, List.pairwise_filter, List.pairwise_iff_getElem]
  intro i j hi hj hlt hrunning hrunning' hkey
  have heq := h.eq_of_isRunning (List.getElem?_eq_getElem hi) (List.getElem?_eq_getElem hj) hkey
    hrunning hrunning'
  exact absurd heq (Nat.ne_of_lt hlt)

/-- The running timelines are those of the runs that have not ended. -/
theorem Kept.running_perm (h : s.Kept) :
  s.running.Perm ((s.runs.filter (·.isRunning)).map (·.key))
  := by
  have hnodup : s.running.Nodup := (sortBy_perm _ _).nodup_iff.mpr h.nodup_running
  apply (List.perm_ext_iff_of_nodup hnodup h.nodup_keys_of_isRunning).mpr
  intro key
  rw [h.mem_running_iff, h.isActive_iff]
  constructor
  · rintro ⟨id, run, hrun, rfl, hrunning⟩
    exact List.mem_map_of_mem (List.mem_filter.mpr ⟨List.mem_of_getElem? hrun, hrunning⟩)
  · intro hmem
    obtain ⟨run, hrun, rfl⟩ := List.mem_map.mp hmem
    obtain ⟨hrun, hrunning⟩ := List.mem_filter.mp hrun
    obtain ⟨id, hid⟩ := List.mem_iff_getElem?.mp hrun
    exact ⟨id, run, hid, rfl, hrunning⟩

/-- There are as many running timelines as runs that have not ended. -/
theorem Kept.length_running (h : s.Kept) :
  s.running.length = s.runs.countP (·.isRunning)
  := by
  rw [h.running_perm.length_eq, List.length_map, List.countP_eq_length_filter]

/-! ### Requests where nothing can move -/

/-- Where nothing can move, no request can go on. -/
theorem isDue_eq_false (hmoves : s.moves = []) {p : Pending} (hp : p ∈ s.pending) :
  s.isDue p = false
  := by
  obtain ⟨i, hi⟩ := List.mem_iff_getElem?.mp hp
  have hlt := (List.getElem?_eq_some_iff.mp hi).1
  by_contra hdue
  have hserve : Move.serve i ∈ s.moves := by
    apply List.mem_append_left
    apply List.mem_map_of_mem
    apply List.mem_filter.mpr ⟨List.mem_range.mpr hlt, _⟩
    rw [canServe, hi]
    simpa using hdue
  rw [hmoves] at hserve
  cases hserve

/-- Where nothing can move, every request waits for a run that has not ended. -/
theorem Reachable.exists_waits_for (h : s.Reachable) (hmoves : s.moves = []) {p : Pending}
    (hp : p ∈ s.pending) :
  ∃ id run, p.run? = some id ∧ s.runs[id]? = some run ∧ run.isRunning
  := by
  have hdue : ¬ s.isDue p := by simp [isDue_eq_false hmoves hp]
  rw [isDue_iff] at hdue
  simp only [not_forall] at hdue
  obtain ⟨id, hid, hended⟩ := hdue
  have hrun := List.getElem?_eq_getElem (h.lt_length_of_pending p hp id hid)
  refine ⟨id, _, hid, hrun, ?_⟩
  simpa [hasEnded, hrun] using hended

/-- Where nothing can move and no clean-up waits, no stop is waiting. -/
theorem Reachable.isStop_eq_false (h : s.Reachable) (hstill : s.Still) (hmoves : s.moves = []) :
  ∀ p ∈ s.pending, p.isStop = false
  := by
  intro p hp
  obtain ⟨id, run, hid, hrun, hrunning⟩ := h.exists_waits_for hmoves hp
  by_contra hstop
  have hclaims := h.claims_of_holds p hp id ⟨by simpa using hstop, hid⟩
  rw [(h.claims_eq_nil_iff hrun).mpr (hstill id run hrun hrunning).phase] at hclaims
  cases hclaims

end Server

/-! ### Stops and their answers -/

/-- Whether a reply tells that a run has ended. -/
def Reply.tellsEnd : Reply → Bool
  | .ended _ => true
  | _ => false

/-- The answers that entries tell of, but for those that tell that a run has ended. -/
def Entry.replies (entries : List Entry) : List (Ticket × Reply) :=
  (entries.filterMap (·.answer?)).filter (!·.2.tellsEnd)

/-- What is answered tells how many runs were stopped. -/
theorem Entry.total_stops (entries : List Entry) :
  total Fact.stops entries = ((replies entries).map (·.2.stops)).sum
  := by
  induction entries with
  | nil => rfl
  | cons entry entries ih =>
    rw [total] at ih ⊢
    rw [List.map_cons, List.sum_cons, ih, replies, replies]
    cases hfact : entry.fact with
    | answered ticket reply =>
      have hanswer : entry.answer? = some (ticket, reply) := by rw [answer?, hfact]
      rw [List.filterMap_cons_some hanswer]
      cases hends : reply.tellsEnd with
      | true =>
        have hnone : reply.stops = 0 := by
          cases reply with
          | ended state => rfl
          | _ => cases hends
        rw [List.filter_cons_of_neg (by simp [hends]), Fact.stops, hnone, Nat.zero_add]
      | false =>
        rw [List.filter_cons_of_pos (by simp [hends]), List.map_cons, List.sum_cons, Fact.stops]
    | _ =>
      have hanswer : entry.answer? = none := by rw [answer?, hfact]
      rw [List.filterMap_cons_none hanswer]
      exact Nat.zero_add _

namespace Server

variable {s t : Server}

/-- The requests that are stops. -/
def stops (s : Server) : List Pending := s.pending.filter (·.isStop)

/-- The answers but for those that tell that a run has ended, latest first. -/
def replies (s : Server) : List (Ticket × Reply) := Entry.replies s.journal

/-- The stops of several runs under a ticket are among the stops. -/
theorem stopAllsOf_eq (s : Server) (ticket : Ticket) :
  s.stopAllsOf ticket = s.stops.filter (·.isStopAllOf ticket)
  := by
  rw [stopAllsOf, stops, List.filter_filter]
  apply List.filter_congr
  intro p _
  cases p <;> simp [Pending.isStopAllOf, Pending.isStop]

theorem apart_stops :
  Apart fun s => (s.stops, s.replies)
  where
  record s fact _ hanswered := by
    cases fact with
    | answered ticket reply => exact absurd rfl (hanswered ticket reply)
    | _ => rfl
  runs _ _ := rfl
  turns _ _ := rfl
  timelines _ _ := rfl

/-- How far a stop of several runs has come since a server: it is the only stop that is waiting, or
it has been answered, and no other one has. -/
inductive Sweeping (s : Server) (ticket : Ticket) (t : Server) : Prop
  | waiting {current : Option RunId} {rest : List RunId} {count : Nat}
      (honly : t.stops = [.stoppingAll ticket current rest count])
      (hreplies : t.replies = s.replies)
  | answered {count : Nat} (hnone : t.stops = [])
      (hreplies : t.replies = (ticket, .stoppedAll count) :: s.replies)

theorem Sweeping.congr {ticket : Ticket} {u : Server} (h : s.Sweeping ticket t)
    (hsame : (u.stops, u.replies) = (t.stops, t.replies)) :
  s.Sweeping ticket u
  := by
  obtain ⟨hstops, hreplies⟩ := Prod.mk.inj hsame
  cases h with
  | waiting honly hbefore => exact .waiting (hstops.trans honly) (hreplies.trans hbefore)
  | answered hnone hbefore => exact .answered (hstops.trans hnone) (hreplies.trans hbefore)

/-- A request that is no stop leaves stops and their answers alone when it goes on. -/
theorem stops_serve_of_not {i : Nat} {p : Pending} (hi : s.pending[i]? = some p)
    (hp : p.isStop = false) :
  ((s.serve i).stops, (s.serve i).replies) = (s.stops, s.replies)
  := by
  obtain ⟨-, herase⟩ := filter_of_not hi hp
  cases p with
  | finishing ticket id =>
    rw [serve, hi]
    simp only
    split
    · rfl
    · exact congrArg (·, s.replies) herase
  | _ => cases hp

/-- The stop looks at its next run, or is answered. -/
theorem Sweeping.serve_self {ticket : Ticket} {i : Nat} {current : Option RunId}
    {rest : List RunId} {count : Nat}
    (hi : t.pending[i]? = some (.stoppingAll ticket current rest count))
    (honly : t.stops = [.stoppingAll ticket current rest count])
    (hreplies : t.replies = s.replies) :
  s.Sweeping ticket (t.serve i)
  := by
  obtain ⟨-, hset, herase⟩ := filter_of_only hi rfl honly
  cases current with
  | some id =>
    rw [serve, hi]
    simp only
    split
    · exact .waiting honly hreplies
    · exact .waiting (hset _ rfl) hreplies
  | none =>
    cases rest with
    | nil =>
      rw [serve, hi]
      simp only [isDue, Bool.not_true, Bool.false_eq_true, if_false]
      split
      · exact .answered herase (congrArg _ hreplies)
      · exact .answered herase (congrArg _ hreplies)
    | cons id rest =>
      rw [serve, hi]
      simp only [isDue, Bool.not_true, Bool.false_eq_true, if_false]
      split
      · exact .waiting (hset _ rfl) hreplies
      · rename_i t' hclaim
        have hclaimed := (Prod.mk.inj (apart_stops.claim? t hclaim)).2
        rw [pending_claim? t hclaim]
        exact .waiting (hset _ rfl) (hclaimed.trans hreplies)

theorem Sweeping.step {ticket : Ticket} (h : s.Sweeping ticket t) (ht : t.Reachable)
    (hsparing : t.Sparing) (move : Move) :
  s.Sweeping ticket (t.step move)
  := by
  cases move with
  | work id =>
    apply h.congr
    exact apart_stops.work (fun _ _ => rfl) (fun _ _ _ => rfl) hsparing ht id
  | serve i =>
    cases hi : t.pending[i]? with
    | none =>
      rw [Server.step, serve, hi]
      exact h
    | some p =>
      cases hp : p.isStop with
      | false => exact h.congr (stops_serve_of_not hi hp)
      | true =>
        have hmem : p ∈ t.stops := List.mem_filter.mpr ⟨List.mem_of_getElem? hi, hp⟩
        cases h with
        | waiting honly hreplies =>
          obtain rfl := List.mem_singleton.mp (honly ▸ hmem)
          exact serve_self hi honly hreplies
        | answered hnone hreplies =>
          rw [hnone] at hmem
          cases hmem

/-! ### Where nothing can move any more -/

/-- `s.SettlesTo t`: as runs and requests take their steps, in some order, `s` comes to `t`, where
nothing can move. -/
def SettlesTo (s t : Server) : Prop := t.moves = [] ∧ ∃ moves : List Move, moves.foldl step s = t

theorem settlesTo_settle (s : Server) :
  s.SettlesTo s.settle
  := by
  refine ⟨moves_settle s, ?_⟩
  apply settle_induction s (P := fun t => ∃ moves : List Move, moves.foldl step s = t) _ ⟨[], rfl⟩
  rintro t move ⟨moves, rfl⟩
  exact ⟨moves ++ [move], List.foldl_concat ..⟩

theorem foldl_step_changes (moves : List Move) :
  ∀ s : Server, Changes s (moves.foldl step s)
  := by
  induction moves with
  | nil =>
    intro s
    exact .refl
  | cons move rest ih =>
    intro s
    exact (step_changes s move).trans (ih _)

/-- What no step changes is not changed by any number of steps. -/
theorem Steady.foldl_step {α : Type} {view : Server → α} (h : Steady view)
    (hpending : ∀ (s : Server) pending, view { s with pending } = view s) (moves : List Move) :
  ∀ s : Server, view (moves.foldl Server.step s) = view s
  := by
  induction moves with
  | nil =>
    intro s
    rfl
  | cons move rest ih =>
    intro s
    exact (ih _).trans (h.step s hpending move)

/-- No step changes the settings or the clock, nor how many runs and timelines there are. -/
theorem steady_extent :
  Steady fun s => (s.settings, s.clock, s.runs.length, s.timelines.length)
  := by
  constructor
  case updateRun =>
    intro s id f _
    simp [updateRun]
  case updateTimeline =>
    intro s key f
    simp [updateTimeline]
  all_goals
    intros
    rfl

/-- A run whose end is claimed, and that has not ended, can move if its clean-up does not wait. So
where nothing can move the runs whose ends are claimed have ended. -/
theorem Winding.eq_cut (h : s.Winding t) (ht : t.Reachable) (hstill : t.Still) {id : RunId}
    {run : Run} (hrun : s.runs[id]? = some run) (hrunning : run.isRunning)
    (hclaimed : Entry.claims (t.historyOf id) ≠ []) :
  t.runs[id]? = some run.cut
  := by
  obtain ⟨run', hrun', hwound⟩ := h.wound id run hrun hrunning
  have hended : run'.isRunning = false := by
    by_contra hgoing
    apply hclaimed
    rw [ht.claims_eq_nil_iff hrun']
    exact (hstill id run' hrun' (by simpa using hgoing)).phase
  cases hwound with
  | unclaimed =>
    rw [hrunning] at hended
    cases hended
  | ended => exact hrun'
  | _ => cases hended

/-! ### What the stop comes to -/

section

variable (h : s.Winding t) (hs : s.Reachable) (hchanges : Changes s t)
  (hcut : ∀ (id : RunId) (run : Run), s.runs[id]? = some run → run.isRunning →
    t.runs[id]? = some run.cut)

include h hs hchanges

/-- Nothing comes about in a run that has ended. -/
theorem Winding.historyOf_eq {id : RunId} (hended : s.isRunning id = false) :
  t.historyOf id = s.historyOf id
  := by
  cases hrun : s.runs[id]? with
  | none =>
    have hle := List.getElem?_eq_none_iff.mp hrun
    rw [hs.historic.historyOf_eq_nil hle,
      (hs.changes hchanges).historic.historyOf_eq_nil (h.length ▸ hle)]
  | some run =>
    have hnot : run.isRunning = false := by
      by_contra hrunning
      rw [(isRunning_iff s id).mpr ⟨run, hrun, by simpa using hrunning⟩] at hended
      cases hended
    obtain ⟨cancelled, hphase⟩ := Run.exists_ended hnot
    exact (hs.ended_of_changes hchanges hrun hphase).2

include hcut

theorem Winding.runs_eq_cutAll :
  t.runs = cutAll s.runs
  := by
  apply List.ext_getElem?
  intro id
  rw [cutAll, List.getElem?_map]
  cases hrun : s.runs[id]? with
  | none =>
    rw [Option.map_none, List.getElem?_eq_none_iff, h.length]
    exact List.getElem?_eq_none_iff.mp hrun
  | some run =>
    rw [Option.map_some]
    cases hrunning : run.isRunning with
    | true => exact hcut id run hrun hrunning
    | false =>
      obtain ⟨cancelled, hphase⟩ := Run.exists_ended hrunning
      exact (hs.ended_of_changes hchanges hrun hphase).1

/-- A run that was running has published its end once, and just now. -/
theorem Winding.ended (hstill : s.Still) {id : RunId} {run : Run} (hrun : s.runs[id]? = some run)
    (hrunning : run.isRunning) :
  Entry.ends (t.historyOf id) = [true] ∧
  ⟨s.clock, .published id (.finished run.key true)⟩ ∈ t.historyOf id
  := by
  have hlived := (hs.changes hchanges).lived (hcut id run hrun hrunning)
  refine ⟨hlived.ends_eq, ?_⟩
  obtain ⟨front, time, hfront⟩ := hlived.exists_finished rfl
  have hmem : ⟨time, .published id (.finished run.key true)⟩ ∈ t.historyOf id := by
    rw [hfront]
    exact List.mem_append_right _ (List.mem_singleton_self _)
  obtain ⟨later, hlater, htime⟩ := h.instant
  obtain ⟨hhistory, hof⟩ := List.mem_filter.mp hmem
  rw [history, List.mem_reverse, hlater] at hhistory
  rcases List.mem_append.mp hhistory with hnew | hold
  · rw [← htime _ hnew]
    exact hmem
  · -- Before, the run had not published any end.
    have hbefore : true ∈ Entry.ends (s.historyOf id) := by
      apply List.mem_filterMap.mpr
      refine ⟨_, List.mem_map_of_mem (List.mem_filter.mpr ⟨List.mem_reverse.mpr hold, hof⟩), rfl⟩
    rw [(hs.lived hrun).ends_eq, (hstill id run hrun hrunning).phase] at hbefore
    cases hbefore

end

theorem isRunning_of_cutAll (hruns : t.runs = cutAll s.runs) {id : RunId} {run : Run}
    (hrun : t.runs[id]? = some run) :
  run.isRunning = false
  := by
  rw [hruns, cutAll, List.getElem?_map] at hrun
  obtain ⟨before, -, rfl⟩ := Option.map_eq_some_iff.mp hrun
  split
  · rfl
  · rename_i hended
    simpa using hended

/-- The stop says how many timelines were running: as many runs have been cancelled since. -/
theorem count_eq_length_running (hs : s.Reachable) (ht : t.Reachable)
    (hnone : ∀ p ∈ s.pending, p.isStop = false) (hnone' : ∀ p ∈ t.pending, p.isStop = false)
    (hruns : t.runs = cutAll s.runs) {ticket : Ticket} {count : Nat}
    (hreplies : t.replies = (ticket, .stoppedAll count) :: s.replies) :
  count = s.running.length
  := by
  have hstops := hs.stops_eq_cancelledEnds hnone
  have hstops' := ht.stops_eq_cancelledEnds hnone'
  have hsum : (t.replies.map (·.2.stops)).sum = count + (s.replies.map (·.2.stops)).sum := by
    rw [hreplies, List.map_cons, List.sum_cons, Reply.stops]
  rw [hs.cancelledEnds_eq, Entry.total_stops] at hstops
  rw [ht.cancelledEnds_eq, Entry.total_stops, hruns, sum_cancellations_cutAll] at hstops'
  rw [replies, replies] at hsum
  rw [hs.kept.length_running]
  omega

/-- What a stop of all timelines comes to, if it takes no time: it is answered with the number of
timelines that were running, these are cancelled, and all else is as it was. -/
structure Swept (s : Server) (ticket : Ticket) (t : Server) : Prop where
  clock : t.clock = s.clock
  /-- All that has come about has done so at this instant. -/
  instant : ∃ later, t.journal = later ++ s.journal ∧ ∀ entry ∈ later, entry.time = s.clock
  /-- The stop is the only one that has been answered. -/
  replies : t.replies = (ticket, .stoppedAll s.running.length) :: s.replies
  pending : t.pending = []
  running : t.running = []
  /-- The runs that were running are cancelled, and the others are what they were. -/
  runs : t.runs = cutAll s.runs
  /-- No run has begun an action of its body. -/
  timelines : t.timelines = s.timelines
  /-- Each run that was running has published its end once, and just now. -/
  ended : ∀ (id : RunId) (run : Run), s.runs[id]? = some run → run.isRunning →
    Entry.ends (t.historyOf id) = [true] ∧
    ⟨s.clock, .published id (.finished run.key true)⟩ ∈ t.historyOf id
  /-- Nothing has come about in any other run. -/
  others : ∀ id, s.isRunning id = false → t.historyOf id = s.historyOf id
  events : ∀ key, t.eventsOf key
    = s.eventsOf key ++ if s.isActive key then [.finished key true] else []

/-- If the runs that were running have been wound up, and the stop is answered, then all is done. -/
theorem Winding.swept (h : s.Winding t) (hs : s.Reachable) (hchanges : Changes s t)
    (hstill : s.Still) (hmoves : s.moves = []) (hmoves' : t.moves = []) {ticket : Ticket}
    (hcut : ∀ (id : RunId) (run : Run), s.runs[id]? = some run → run.isRunning →
      t.runs[id]? = some run.cut)
    {count : Nat} (hreplies : t.replies = (ticket, .stoppedAll count) :: s.replies) :
  s.Swept ticket t
  := by
  have ht := hs.changes hchanges
  have hruns := h.runs_eq_cutAll hs hchanges hcut
  have hpending : t.pending = [] := by
    apply List.eq_nil_iff_forall_not_mem.mpr
    intro p hp
    obtain ⟨id, run, -, hrun, hrunning⟩ := ht.exists_waits_for hmoves' hp
    rw [isRunning_of_cutAll hruns hrun] at hrunning
    cases hrunning
  have hinactive : ∀ key, t.isActive key = false := by
    intro key
    by_contra hactive
    obtain ⟨id, run, hrun, -, hrunning⟩ := (ht.kept.isActive_iff key).mp (by simpa using hactive)
    rw [isRunning_of_cutAll hruns hrun] at hrunning
    cases hrunning
  have hrunning : t.running = [] := by
    apply List.eq_nil_iff_forall_not_mem.mpr
    intro key hkey
    rw [ht.kept.mem_running_iff, hinactive key] at hkey
    cases hkey
  have hcount := count_eq_length_running hs ht (hs.isStop_eq_false hstill hmoves)
    (by simp [hpending]) hruns hreplies
  refine ⟨h.clock, h.instant, hcount ▸ hreplies, hpending, hrunning, hruns, h.timelines, ?_, ?_, ?_⟩
  · intro id run hrun hrunning
    exact h.ended hs hchanges hcut hstill hrun hrunning
  · intro id hended
    exact h.historyOf_eq hs hchanges hended
  · intro key
    rw [h.events, hinactive key, Bool.not_false, Bool.and_true]

end Server

namespace Session

variable {session : Session}

theorem server_foldl_move (moves : List Server.Move) :
  ∀ session : Session, ((moves.map Happening.move).foldl happen session).server
    = moves.foldl Server.step session.server
  := by
  induction moves with
  | nil =>
    intro session
    rfl
  | cons move rest ih =>
    intro session
    exact ih (session.happen (.move move))

/-- Whatever moves, the stop goes further, and no other one comes. -/
theorem Sparing.sweeping {s : Server} {ticket : Ticket} (moves : List Server.Move) :
  ∀ {session : Session}, session.Sparing → s.Sweeping ticket session.server →
    s.Sweeping ticket (moves.foldl Server.step session.server)
  := by
  induction moves with
  | nil =>
    intro session _ hsweeping
    exact hsweeping
  | cons move rest ih =>
    intro session h hsweeping
    apply ih (h.happen (x := .move move) trivial)
    exact hsweeping.step h.reachable.server h.server move

namespace Sparing

variable (h : session.Sparing) (hcleanUp : session.server.settings.cleansUpAtOnce)
  (hmoves : session.server.moves = [])

include h hcleanUp hmoves

/-- Where the stop begins, it is the only one. -/
theorem stops_stopEach (ticket : Ticket) (ids : List RunId) :
  (session.server.stopEach ticket ids).stops = [.stoppingAll ticket none ids 0]
  := by
  have hs := h.reachable.server
  have hnone := hs.isStop_eq_false (hs.still hcleanUp hmoves) hmoves
  have hstops : session.server.pending.filter (·.isStop) = [] := by
    apply List.filter_eq_nil_iff.mpr
    intro p hp
    simp [hnone p hp]
  rw [Server.stops, Server.stopEach, Server.await, List.filter_append, hstops]
  rfl

/-- Once the stop is no longer waiting, the end of each run that was running has been claimed. -/
theorem claims_ne_nil {ticket : Ticket} {ids : List RunId}
    (hids : ids.Perm session.server.currentRuns) {moves : List Server.Move}
    (hnone : (moves.foldl Server.step (session.server.stopEach ticket ids)).stops = [])
    {id : RunId} {run : Run} (hrun : session.server.runs[id]? = some run)
    (hrunning : run.isRunning) :
  Entry.claims ((moves.foldl Server.step (session.server.stopEach ticket ids)).historyOf id) ≠ []
  := by
  have hown : (Pending.stoppingAll ticket none ids 0).isStopAllOf ticket := by
    simp [Pending.isStopAllOf]
  have honly : (session.server.stopEach ticket ids).stopAllsOf ticket
      = [.stoppingAll ticket none ids 0] := by
    rw [Server.stopAllsOf_eq, h.stops_stopEach hcleanUp hmoves, List.filter_cons_of_pos hown,
      List.filter_nil]
  have hlt : ∀ id ∈ ids, id < session.server.runs.length := by
    intro id hid
    exact List.mem_range.mp (List.mem_filter.mp (hids.mem_iff.mp hid)).1
  have hxs : ∀ x ∈ moves.map Happening.move, x.stopAll? ≠ some ticket := by
    intro x hx
    obtain ⟨move, -, rfl⟩ := List.mem_map.mp hx
    rintro ⟨⟩
  obtain ⟨-, hlooking⟩ := looking_happens (moves.map .move)
    (h.reachable.happen (.stopEach ticket ids)) (.waiting honly fun id hid => .inl hid) hlt hxs
  rw [server_foldl_move] at hlooking
  cases hlooking with
  | waiting hstill hseen =>
    rw [Server.stopAllsOf_eq, Session.happen, withServer, hnone] at hstill
    cases hstill
  | answered hgone hentry hfact hseen =>
    exact hseen id (hids.mem_iff.mpr (h.reachable.server.kept.mem_currentRuns hrun hrunning))

theorem swept {ticket : Ticket} {ids : List RunId} (hids : ids.Perm session.server.currentRuns)
    {t : Server} (ht : (session.server.stopEach ticket ids).SettlesTo t) :
  session.server.Swept ticket t
  := by
  obtain ⟨hquiet, moves, rfl⟩ := ht
  have hs := h.reachable.server
  have hstill := hs.still hcleanUp hmoves
  have hextent := Server.steady_extent.foldl_step (fun _ _ => rfl) moves
    (session.server.stopEach ticket ids)
  simp only [Prod.mk.injEq] at hextent
  obtain ⟨hsettings, hclock, hlength, htimelines⟩ := hextent
  have hchanges : Server.Changes session.server
      (moves.foldl Server.step (session.server.stopEach ticket ids)) :=
    (Server.stopEach_changes ..).trans (Server.foldl_step_changes moves _)
  have hreach := hs.changes hchanges
  have hwinding := hs.winding hstill hchanges hclock hlength htimelines
  have hstill' := hreach.still (hsettings ▸ hcleanUp) hquiet
  have hnone := hreach.isStop_eq_false hstill' hquiet
  have hbegun : (session.happen (.stopEach ticket ids)).Sparing := h.happen trivial
  have hsweeping := hbegun.sweeping (s := session.server) moves
    (.waiting (h.stops_stopEach hcleanUp hmoves ticket ids) rfl)
  cases hsweeping with
  | @waiting current rest count honly hreplies =>
    have hmem : Pending.stoppingAll ticket current rest count
        ∈ (moves.foldl Server.step (session.server.stopEach ticket ids)).pending :=
      List.mem_of_mem_filter (honly ▸ List.mem_singleton_self _)
    cases hnone _ hmem
  | answered hgone hreplies =>
    apply hwinding.swept hs hchanges hstill hmoves hquiet _ hreplies
    intro id run hrun hrunning
    apply hwinding.eq_cut hreach hstill' hrun hrunning
    exact h.claims_ne_nil hcleanUp hmoves hids hgone hrun hrunning

end Sparing

/-- Let nothing be able to move in a session in which handlers stop nothing and clean-ups do not
wait. Then a stop of all timelines does not depend on the order in which it looks at them, nor on
the order in which runs and requests take their steps. It is answered at once, with the number of
timelines that were running; each of these is cancelled at that instant and publishes its end once;
and all other runs stay as they are. So whatever the order, runs, timelines and their events come
out the same. -/
theorem Sparing.stopsAllAtOnce (h : session.Sparing)
    (hcleanUp : session.server.settings.cleansUpAtOnce) (hmoves : session.server.moves = []) :
  (∀ index, session.server.Swept ⟨some index, ""⟩ (session.after index .stopAll).server) ∧
  ∀ (ticket : Ticket) (ids : List RunId) (t : Server), ids.Perm session.server.currentRuns →
    (session.server.stopEach ticket ids).SettlesTo t →
      session.server.Swept ticket t ∧
      ∀ (ids' : List RunId) (t' : Server), ids'.Perm session.server.currentRuns →
        (session.server.stopEach ticket ids').SettlesTo t' →
          t'.runs = t.runs ∧ t'.timelines = t.timelines ∧ t'.replies = t.replies ∧
          ∀ key, t'.eventsOf key = t.eventsOf key
  := by
  constructor
  · intro index
    have hsettled := (h.reachable.happen (.perform index .stopAll)).settle.server
    have hafter : (session.after index .stopAll).server
        = (session.server.stopAll ⟨index, ""⟩).settle :=
      hsettled.advance_zero (Server.moves_settle _)
    rw [hafter]
    exact h.swept hcleanUp hmoves (List.Perm.refl _) (Server.settlesTo_settle _)
  · intro ticket ids t hids ht
    have hswept := h.swept hcleanUp hmoves hids ht
    refine ⟨hswept, ?_⟩
    intro ids' t' hids' ht'
    have hswept' := h.swept hcleanUp hmoves hids' ht'
    refine ⟨?_, ?_, ?_, ?_⟩
    · rw [hswept.runs, hswept'.runs]
    · rw [hswept.timelines, hswept'.timelines]
    · rw [hswept.replies, hswept'.replies]
    · intro key
      rw [hswept.events, hswept'.events]

/-- Two timelines that wait, and whose clean-up calls a command, are stopped in either order. -/
theorem Sparing.stopsAllAtOnce_of_waits :
  let session := [.commit ⟨"left", "#wait 5", []⟩, .commit ⟨"right", "#wait 9", []⟩,
    .move (.work 0), .move (.work 1)].foldl Session.happen
    { server := {
        settings := { cleanUp := ["/bye", "#wait 0"] }, commands := [{ given := ["bye"] }] } }
  let first := (session.server.stopEach ⟨some 4, ""⟩ [0, 1]).settle
  let second := (session.server.stopEach ⟨some 4, ""⟩ [1, 0]).settle
  session.server.running = ["left", "right"] ∧
  first.replies = [(⟨some 4, ""⟩, .stoppedAll 2)] ∧
  first.eventsOf "left" = [.started "left" 1, .finished "left" true] ∧
  first.runState 0 = .cancelled ∧ second.runs = first.runs ∧
  second.eventsOf "left" = first.eventsOf "left"
  := by
  intro session first second
  have hsparing : session.Sparing := by
    apply Sparing.happen (x := .move (.work 1)) _ trivial
    apply Sparing.happen (x := .move (.work 0)) _ trivial
    apply Sparing.happen (x := .commit ⟨"right", "#wait 9", []⟩) _ trivial
    apply Sparing.happen (x := .commit ⟨"left", "#wait 5", []⟩) _ trivial
    exact .new {} _ (by decide) (by decide)
  have hfirst : [0, 1].Perm session.server.currentRuns := by decide +kernel
  have hsecond : [1, 0].Perm session.server.currentRuns := by decide +kernel
  have hrunning : session.server.running = ["left", "right"] := by decide +kernel
  obtain ⟨-, hany⟩ := hsparing.stopsAllAtOnce (by decide +kernel) (by decide +kernel)
  obtain ⟨hswept, hsame⟩ := hany ⟨some 4, ""⟩ _ _ hfirst (Server.settlesTo_settle _)
  obtain ⟨hruns, -, -, hevents⟩ := hsame _ _ hsecond (Server.settlesTo_settle _)
  refine ⟨hrunning, ?_, ?_, ?_, hruns, hevents "left"⟩
  · rw [hswept.replies, hrunning]
    decide +kernel
  · rw [hswept.events]
    decide +kernel
  · rw [Server.runState, hswept.runs]
    decide +kernel

end Session

end CommandTimelines
