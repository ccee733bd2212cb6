import CommandTimelines.Proofs.Ending

/-!
# Draining the body

A run carries out the actions of its body in their order and one at a time, as far as it comes,
and all of them unless it is stopped. Once its end is claimed no further action of the body
begins, and one that is a wait is over at once. How many actions the runs of a timeline have
begun is what the timeline counts.

* `Run.Lived.begun_eq` says which actions have begun, `Run.Lived.logged` how each is carried
  out.
* `Server.Tallied` says that timelines count what their runs have begun.
* `Session.Reachable.drains` puts it together.
-/

namespace CommandTimelines

open Script

/-! ### The actions that have begun -/

/-- The work that an entry says has begun. -/
def Entry.began? (entry : Entry) : Option Work :=
  match entry.fact with
  | .began work => some work
  | _ => none

/-- The actions that entries say have begun, of the body of a run or of its clean-up. -/
def Entry.begun (ofCleanUp : Bool) (entries : List Entry) : List Action :=
  ((entries.filterMap (·.began?)).filter (·.ofCleanUp == ofCleanUp)).map (·.action)

theorem Entry.filterMap_began?_eq (entries : List Entry) :
  entries.filterMap (·.began?) = (entries.filter (·.isOfExecution)).filterMap (·.began?)
  := by
  rw [List.filterMap_filter]
  congr 1
  funext entry
  obtain ⟨time, fact⟩ := entry
  cases fact with
  | called caller call => cases caller <;> rfl
  | _ => rfl

/-- An execution begins one action. -/
theorem Execution.filterMap_began?_entries (x : Execution) :
  x.entries.filterMap (·.began?) = [x.work]
  := by
  rw [entries]
  cases x.call <;> rfl

theorem Execution.filterMap_began?_flatMap (done : List Execution) :
  (done.flatMap (·.entries)).filterMap (·.began?) = done.map (·.work)
  := by
  induction done with
  | nil => rfl
  | cons x done ih =>
    rw [List.flatMap_cons, List.filterMap_append, Execution.filterMap_began?_entries, ih]
    rfl

theorem Activity.Written.filterMap_began? {id : RunId} {ofCleanUp : Bool} {activity : Activity}
    {entries : List Entry} (h : activity.Written id ofCleanUp entries) :
  entries.filterMap (·.began?) = activity.action?.toList.map (Work.mk id ofCleanUp)
  := by
  cases h with
  | ready => rfl
  | waiting line milliseconds start => rfl
  | calling start hno => rfl
  | @returned action call error start time hno hmakes => cases call <;> rfl

namespace Run

variable {id : RunId} {run : Run} {history : List Entry}

/-- The work that has begun is that of the body, and then that of the clean-up, in order. -/
theorem Lived.works_eq (h : Lived id run history) :
  history.filterMap (·.began?) = run.works id
  := by
  obtain ⟨done, atHand, hlogged⟩ := h.logged
  rw [Entry.filterMap_began?_eq, hlogged.filter_eq, List.filterMap_append,
    Execution.filterMap_began?_flatMap, hlogged.written.filterMap_began?, ← hlogged.works_eq]
  rfl

/-- Of some work, all of the body or all of the clean-up, the actions of the body or of the
clean-up. -/
theorem map_action_filter_map_mk (actions : List Action) (c d : Bool) :
  (((actions.map (Work.mk id c)).filter (·.ofCleanUp == d)).map (·.action))
    = if c = d then actions else []
  := by
  rw [List.filter_map, List.map_map]
  cases c <;> cases d <;> simp [Function.comp_def]

/-- The actions of the body that have begun are the first ones, each once and in order. -/
theorem Lived.begun_eq (h : Lived id run history) :
  Entry.begun false history = run.body.take run.begun
  := by
  rw [Entry.begun, h.works_eq, works, List.filter_append, List.map_append,
    map_action_filter_map_mk, map_action_filter_map_mk]
  simp

/-- The actions of the clean-up that have begun are the first ones, each once and in order. -/
theorem Lived.cleaned_eq (h : Lived id run history) :
  Entry.begun true history = run.cleanUp.take run.cleaned
  := by
  rw [Entry.begun, h.works_eq, works, List.filter_append, List.map_append,
    map_action_filter_map_mk, map_action_filter_map_mk]
  simp

/-- A run whose end has not been claimed has nothing of a claim in its history. -/
theorem Lived.claim?_eq_none (h : Lived id run history) (hphase : run.phase = .draining false) :
  ∀ entry ∈ history, entry.fact.claim? = none
  := by
  have hnone : Entry.claims history = [] := h.claimed.eq_nil_iff.mpr hphase
  intro entry hentry
  apply List.filterMap_eq_nil_iff.mp hnone
  apply List.mem_map_of_mem hentry

/-- An action of the body begins only where the end of the run has not been claimed, and it
claims nothing. -/
theorem Next.of_began {now : Nat} {run' : Run} {facts : List Fact} {action : Action}
    (h : Next id now run facts run') (hbegan : .began ⟨id, false, action⟩ ∈ facts) :
  run.phase = .draining false ∧ ∀ fact ∈ facts, fact.claim? = none
  := by
  cases h with
  | beginBody hphase hready hnext =>
    refine ⟨hphase, ?_⟩
    intro fact hfact
    rcases List.mem_cons.mp hfact with rfl | hfact
    · rfl
    · rw [Work.eq_of_mem_atOnce hfact]
      rfl
  | beginCleanUp hphase hready hnext =>
    rcases List.mem_cons.mp hbegan with heq | hbegan
    · cases heq
    · cases Work.eq_of_mem_atOnce hbegan
  | @call action call error hcalling hmakes => cases call <;> simp at hbegan
  | takeUp hreturned =>
    rw [failure] at hbegan
    split at hbegan <;> simp at hbegan
  | _ => simp at hbegan

/-- Once the end of a run is claimed no further action of its body begins. -/
theorem Lived.pairwise_claimed (h : Lived id run history) :
  history.Pairwise fun entry later =>
    entry.fact.claim?.isSome → ∀ action, later.fact ≠ .began ⟨id, false, action⟩
  := by
  induction h with
  | launched key body cleanUp time => apply List.pairwise_singleton
  | @next run run' history now facts hlived hnext htime ih =>
    apply pairwise_append_of_forall ih
    intro entry hentry later hlater hclaim action heq
    obtain ⟨fact, hfact, rfl⟩ := List.mem_map.mp hlater
    obtain rfl : fact = .began ⟨id, false, action⟩ := heq
    obtain ⟨hphase, hfacts⟩ := hnext.of_began hfact
    have hnone : entry.fact.claim? = none := by
      rcases List.mem_append.mp hentry with hentry | hentry
      · apply hlived.claim?_eq_none hphase entry hentry
      · obtain ⟨fact, hfact, rfl⟩ := List.mem_map.mp hentry
        apply hfacts fact hfact
    rw [hnone] at hclaim
    cases hclaim

/-- The first thing in the history of a run, and only that, is its start with the number of the
actions of its body. -/
theorem Lived.exists_started (h : Lived id run history) :
  ∃ time rest, history = ⟨time, .published id (.started run.key run.body.length)⟩ :: rest ∧
    ∀ entry ∈ rest, ∀ key actions, entry.fact ≠ .published id (.started key actions)
  := by
  induction h with
  | launched key body cleanUp time => exact ⟨time, [], rfl, by simp⟩
  | @next run run' history now facts _ hnext htime ih =>
    obtain ⟨time, rest, rfl, hrest⟩ := ih
    obtain ⟨hkey, hbody, -⟩ := hnext.key_eq
    refine ⟨time, rest ++ facts.map (Entry.mk now), by rw [hkey, hbody]; rfl, ?_⟩
    intro entry hentry key actions heq
    rcases List.mem_append.mp hentry with hentry | hentry
    · apply hrest entry hentry key actions heq
    · obtain ⟨fact, hfact, rfl⟩ := List.mem_map.mp hentry
      obtain rfl : fact = .published id (.started key actions) := heq
      have hmem : Fact.published id (.started key actions)
          ∈ facts.filter (!·.isOfExecution) := List.mem_filter.mpr ⟨hfact, rfl⟩
      have houtcome := hnext.outcome
      generalize facts.filter (!·.isOfExecution) = outcome at houtcome hmem
      cases houtcome <;> simp at hmem

/-- A run that finishes has begun the whole body. -/
theorem Lived.begun_eq_body (h : Lived id run history) (hends : Entry.ends history = [false]) :
  Entry.begun false history = run.body
  := by
  rw [h.ends_eq] at hends
  have hphase : run.phase = .ended false := by
    cases hphase : run.phase with
    | ended cancelled => simpa [hphase, Phase.ends] using hends
    | _ => simp [hphase, Phase.ends] at hends
  rw [h.begun_eq, h.counted.begun_eq (.inr hphase), List.take_length]

/-- A run has begun as many actions of its body as it says. -/
theorem Lived.length_begun (h : Lived id run history) :
  (Entry.begun false history).length = run.begun
  := by
  rw [h.begun_eq, List.length_take, Nat.min_eq_left h.counted.begun_le]

end Run

/-! ### What timelines count -/

/-- A step of a run begins actions, and takes none back. -/
theorem Run.Next.begun_le {id : RunId} {now : Nat} {run run' : Run} {facts : List Fact}
    (h : Run.Next id now run facts run') :
  run.begun ≤ run'.begun
  := by
  cases h with
  | beginBody hphase hready hnext => apply Nat.le_succ
  | _ => apply Nat.le_refl

namespace Server

variable {s : Server}

/-- How many actions of their bodies the runs of a timeline have begun. -/
def tally (s : Server) (key : String) : Nat :=
  (s.runs.map fun run => if run.key = key then run.begun else 0).sum

/-- Every timeline counts the actions that its runs have begun. -/
def Tallied (s : Server) : Prop := ∀ t ∈ s.timelines, t.begun = s.tally t.key

/-- A timeline that is enrolled has no runs. -/
theorem Kept.tally_eq_zero (h : s.Kept) {key : String} (hnew : s.timeline? key = none) :
  s.tally key = 0
  := by
  rw [tally, List.sum_eq_zero_iff_forall_eq_nat]
  intro n hn
  obtain ⟨run, hrun, rfl⟩ := List.mem_map.mp hn
  obtain ⟨id, hid⟩ := List.mem_iff_getElem?.mp hrun
  rw [if_neg]
  rintro rfl
  obtain ⟨current, hcurrent, -⟩ := h.current_of_run id run hid
  simp [currentRun?, hnew] at hcurrent

theorem Tallied.enroll (h : s.Tallied) (hkept : s.Kept) (key : String) :
  (s.enroll key).Tallied
  := by
  rw [Server.enroll]
  split
  · apply h
  · rename_i hnone
    intro t ht
    rcases List.mem_append.mp ht with ht | ht
    · apply h t ht
    · obtain rfl := List.mem_singleton.mp ht
      symm
      apply hkept.tally_eq_zero
      simpa using hnone

theorem Tallied.launch {t : Server} (h : s.Tallied) {run : Run} {id : RunId}
    (hbegun : run.begun = 0) (hruns : t.runs = s.runs ++ [run])
    (htimelines : t.timelines = s.timelinesAt run.key id) :
  t.Tallied
  := by
  intro timeline ht
  rw [htimelines] at ht
  obtain ⟨old, hold, rfl⟩ := List.mem_map.mp ht
  have htally : ∀ key, t.tally key = s.tally key := by
    intro key
    simp [tally, hruns, hbegun]
  rw [htally]
  split <;> apply h old hold

theorem Tallied.work {t : Server} (h : s.Tallied) {id : RunId} {run run' : Run}
    {facts : List Fact} {now : Nat} (hrun : s.runs[id]? = some run)
    (hnext : Run.Next id now run facts run') (hruns : t.runs = s.runs.set id run')
    (htimelines : t.timelines = s.timelinesWith run.key (run'.begun - run.begun)) :
  t.Tallied
  := by
  intro timeline ht
  rw [htimelines] at ht
  obtain ⟨old, hold, rfl⟩ := List.mem_map.mp ht
  have holdTally := h old hold
  have hle := hnext.begun_le
  have hset : ∀ key, t.tally key + (if run.key = key then run.begun else 0)
      = s.tally key + if run'.key = key then run'.begun else 0 := by
    intro key
    rw [tally, hruns]
    apply sum_map_set (fun run : Run => if run.key = key then run.begun else 0) hrun
  by_cases hkey : old.key = run.key
  · have hself := hset run.key
    rw [hnext.key_eq.1, if_pos rfl, if_pos rfl] at hself
    rw [hkey] at holdTally
    simp only [hkey, if_true]
    omega
  · have hother := hset old.key
    rw [hnext.key_eq.1, if_neg (Ne.symm hkey), if_neg (Ne.symm hkey)] at hother
    simp only [hkey, if_false]
    omega

/-- However a server comes about, its timelines count the actions that their runs have
begun. -/
theorem Reachable.tallied (h : Reachable s) :
  s.Tallied
  := by
  induction h with
  | new settings commands awaiting =>
    intro t ht
    cases ht
  | change hs hchange ih =>
    cases hchange with
    | aside commands awaiting hturns hclock => apply ih
    | record fact hrun hstops => apply ih
    | enroll key => apply ih.enroll hs.kept
    | launch o body cleanUp hidle hknown hbody hcleanUp => exact ih.launch rfl rfl rfl
    | work hrun hnext hfollows => exact ih.work hrun hnext rfl rfl
    | serve hserved => apply ih

/-! ### Waits that a stop cuts short -/

/-- A wait of the body of a run that a stop has claimed is over at once, and does not wait for
its deadline. -/
theorem work_of_stopped {id : RunId} {run : Run} {line milliseconds deadline : Nat}
    (hrun : s.runs[id]? = some run) (hphase : run.phase = .draining true)
    (hwaiting : run.activity = .waiting line milliseconds deadline) :
  s.canWork id ∧
  (s.work id).runs[id]? = some { run with activity := .ready } ∧
  (s.work id).historyOf id
    = s.historyOf id ++ [⟨s.clock, .over ⟨id, false, .delay line milliseconds⟩ none⟩]
  := by
  have hlt := (List.getElem?_eq_some_iff.mp hrun).1
  have hcleaning : run.isCleaning = false := by simp [Run.isCleaning, hphase]
  have hwork : s.work id = (s.log (.waitInterrupted milliseconds)).conclude
      ⟨id, false, .delay line milliseconds⟩ none := by
    simp [work, hrun, hwaiting, hphase, hcleaning]
  rw [hwork, conclude_eq (s.log (.waitInterrupted milliseconds))
    ⟨id, false, .delay line milliseconds⟩ hrun]
  refine ⟨?_, ?_, ?_⟩
  · simp [canWork, hrun, Run.canMove, hwaiting, hphase]
  · apply List.getElem?_set_self hlt
  · simp [historyOf, history, journalWith, log, record, Entry.isOf, Fact.run?]

end Server

/-- Whatever happens in a session: the actions of the body that a run has begun are the first
ones of its body, each once and in order, and the whole body if the run finishes. They are
carried out one after the other. Once the end of the run is claimed none begins, and a wait is
over at once. The start of the run tells how many there are, and the timeline counts those that
its runs have begun. -/
theorem Session.Reachable.drains {session : Session} (h : Reachable session) :
  (∀ id run, session.server.runs[id]? = some run →
    Entry.begun false (session.server.historyOf id) = run.body.take run.begun ∧
    (Entry.begun false (session.server.historyOf id)).length = run.begun ∧
    (Entry.ends (session.server.historyOf id) = [false] →
      Entry.begun false (session.server.historyOf id) = run.body) ∧
    (∃ done atHand, run.Logged id (session.server.historyOf id) done atHand) ∧
    (session.server.historyOf id).Pairwise (fun entry later =>
      entry.fact.claim?.isSome → ∀ action, later.fact ≠ .began ⟨id, false, action⟩) ∧
    (∀ line milliseconds deadline, run.activity = .waiting line milliseconds deadline →
      run.isCleaning = false → Entry.claims (session.server.historyOf id) ≠ [] →
      session.server.canWork id ∧
      (session.server.work id).runs[id]? = some { run with activity := .ready } ∧
      (session.server.work id).historyOf id = session.server.historyOf id
        ++ [⟨session.server.clock, .over ⟨id, false, .delay line milliseconds⟩ none⟩]) ∧
    (∃ time rest, session.server.historyOf id
        = ⟨time, .published id (.started run.key run.body.length)⟩ :: rest ∧
      ∀ entry ∈ rest, ∀ key actions, entry.fact ≠ .published id (.started key actions))) ∧
  (∀ key t, session.server.timeline? key = some t →
    t.begun = (session.server.runs.map fun run => if run.key = key then run.begun else 0).sum)
  := by
  constructor
  · intro id run hrun
    have hlived := h.server.lived hrun
    refine ⟨hlived.begun_eq, hlived.length_begun, hlived.begun_eq_body, hlived.logged,
      hlived.pairwise_claimed, ?_, hlived.exists_started⟩
    intro line milliseconds deadline hwaiting hcleaning hclaimed
    apply Server.work_of_stopped hrun _ hwaiting
    cases hphase : run.phase with
    | draining stopping =>
      cases stopping with
      | true => rfl
      | false => exact absurd ((h.server.claims_eq_nil_iff hrun).mpr hphase) hclaimed
    | cleaning cancelled => simp [Run.isCleaning, hphase] at hcleaning
    | ended cancelled =>
      have hready := (hlived.counted.ended cancelled hphase).2
      rw [hready] at hwaiting
      cases hwaiting
  · intro key t ht
    have htally := h.server.tallied t (List.mem_of_find?_eq_some ht)
    have hkey : t.key = key := by simpa using List.find?_some ht
    rw [hkey] at htally
    apply htally

/-- A timeline that was stopped in the first of two waits has begun one action, and counts
it. -/
theorem drains_of_stopped_wait :
  let session := ((Session.happen {} (.commit ⟨"show", "#wait 5\n#wait 6", []⟩)).after 0
    (.advance 1)).after 1 (.stop "show")
  Entry.begun false (session.server.historyOf 0) = [.delay 1 5] ∧
  ∃ t, session.server.timeline? "show" = some t ∧ t.begun = 1
  := by
  intro session
  have hreachable : session.Reachable :=
    .after (.after (.happen (.new {} {} [] []) _) 0 _) 1 _
  obtain ⟨hruns, htimelines⟩ := Session.Reachable.drains hreachable
  obtain ⟨run, hrun⟩ : ∃ run, session.server.runs[0]? = some run :=
    Option.isSome_iff_exists.mp (by decide +kernel)
  obtain ⟨t, ht⟩ : ∃ t, session.server.timeline? "show" = some t :=
    Option.isSome_iff_exists.mp (by decide +kernel)
  have hbegun : session.server.runs.map (fun run => run.body.take run.begun)
      = [[.delay 1 5]] := by decide +kernel
  constructor
  · rw [(hruns 0 run hrun).1]
    have hmap := congrArg (·[0]?) hbegun
    simpa [hrun] using hmap
  · use t, ht
    rw [htimelines "show" t ht]
    decide +kernel

end CommandTimelines
