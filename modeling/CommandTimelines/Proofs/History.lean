import CommandTimelines.Proofs.Change
import Mathlib.Data.List.Basic

/-!
# Histories of runs

The journal read forwards is the history of the server, and the entries that tell of one run
are the history of that run. `Run.Lived` says which histories a run can have: it is launched,
and then each of its steps adds the facts that come about by it, at a time that is not earlier
than any before. Nothing else enters the history of a run (`Server.Reachable.lived`), whatever
other runs do in between. So a question about one run is answered by induction on its own
steps.
-/

namespace CommandTimelines

/-- Whether an entry tells of a run. -/
def Entry.isOf (id : RunId) (entry : Entry) : Bool := entry.fact.run? == some id

/-- `Run.Lived id run history`: the run `run`, whose number is `id`, can have the history
`history`, earliest first. -/
inductive Run.Lived (id : RunId) : Run → List Entry → Prop
  | launched (key : String) (body cleanUp : List Script.Action) (time : Nat) :
      Lived id { key, body, cleanUp } [⟨time, .published id (.started key body.length)⟩]
  | next {run run' : Run} {history : List Entry} {now : Nat} {facts : List Fact}
      (h : Lived id run history) (hnext : Run.Next id now run facts run')
      (htime : ∀ entry ∈ history, entry.time ≤ now) :
      Lived id run' (history ++ facts.map (Entry.mk now))

/-- A list whose elements are related in order is continued by elements that are related to
all that there are then. -/
theorem pairwise_append_of_forall {α : Type} {R : α → α → Prop} {xs ys : List α}
    (h : xs.Pairwise R) (hys : ∀ x ∈ xs ++ ys, ∀ y ∈ ys, R x y) :
  (xs ++ ys).Pairwise R
  := by
  rw [List.pairwise_append]
  refine ⟨h, ?_, ?_⟩
  · apply List.pairwise_of_forall_mem_list
    intro x hx y hy
    apply hys x (List.mem_append_right _ hx) y hy
  · intro x hx y hy
    apply hys x (List.mem_append_left _ hx) y hy

/-! ### What no step of a run changes -/

/-- The facts of a step are about the run that takes it. -/
theorem Run.Next.run?_eq {id : RunId} {now : Nat} {run run' : Run} {facts : List Fact}
    (h : Run.Next id now run facts run') {fact : Fact} (hmem : fact ∈ facts) :
  fact.run? = some id
  := by
  have hatOnce : ∀ work : Work, work.run = id → ∀ fact ∈ Fact.began work :: work.atOnce,
      fact.run? = some id := by
    rintro work rfl fact hfact
    rcases List.mem_cons.mp hfact with rfl | hfact
    · rfl
    · rw [Work.eq_of_mem_atOnce hfact]
      rfl
  cases h with
  | beginBody hphase hready hnext => exact hatOnce _ rfl fact hmem
  | beginCleanUp hphase hready hnext => exact hatOnce _ rfl fact hmem
  | call hcalling hmakes =>
    obtain ⟨call, -, rfl⟩ := List.mem_map.mp hmem
    rfl
  | takeUp hreturned =>
    rw [Run.failure] at hmem
    split at hmem
    · simp at hmem
      rcases hmem with rfl | ⟨e, -, rfl⟩ <;> rfl
    · simp at hmem
      subst hmem
      rfl
  | wake hwaiting hdue =>
    obtain rfl := List.mem_singleton.mp hmem
    rfl
  | stop ticket hphase =>
    obtain rfl := List.mem_singleton.mp hmem
    rfl
  | drain hphase hready hnext =>
    obtain rfl := List.mem_singleton.mp hmem
    rfl
  | leave hphase hready => cases hmem
  | finish hphase hready hnext =>
    obtain rfl := List.mem_singleton.mp hmem
    rfl

/-- A step leaves the timeline and the actions of the run as they are. -/
theorem Run.Next.key_eq {id : RunId} {now : Nat} {run run' : Run} {facts : List Fact}
    (h : Run.Next id now run facts run') :
  run'.key = run.key ∧ run'.body = run.body ∧ run'.cleanUp = run.cleanUp
  := by
  cases h <;> exact ⟨rfl, rfl, rfl⟩

/-- A run does not begin to run again. -/
theorem Run.Next.isRunning_of {id : RunId} {now : Nat} {run run' : Run} {facts : List Fact}
    (h : Run.Next id now run facts run') (hrunning : run'.isRunning) :
  run.isRunning
  := by
  cases h with
  | beginBody hphase hready hnext => exact hrunning
  | beginCleanUp hphase hready hnext => exact hrunning
  | call hcalling hmakes => exact hrunning
  | takeUp hreturned => exact hrunning
  | wake hwaiting hdue => exact hrunning
  | stop ticket hphase => simp [isRunning, state, hphase]
  | drain hphase hready hnext => simp [isRunning, state, hphase]
  | leave hphase hready => simp [isRunning, state, hphase]
  | finish hphase hready hnext => simp [isRunning, state, hphase]

/-! ### What a step of a run comes to -/

/-- Whether a fact tells of the execution of an action. -/
def Fact.isOfExecution : Fact → Bool
  | .began _ => true
  | .over _ _ => true
  | .called caller _ => caller.isSome
  | _ => false

/-- What a step of a run comes to, executions of actions apart: the run goes on in its phase,
possibly with the failure of a step of the body, or it passes to another phase. -/
inductive Run.Outcome (id : RunId) (run run' : Run) : List Fact → Prop
  | same (h : run'.phase = run.phase) : Outcome id run run' []
  | failed (stopping : Bool) (line : Nat) (error : StepError)
      (h : run.phase = .draining stopping) (h' : run'.phase = .draining stopping) :
      Outcome id run run' [.published id (.failed run.key line error)]
  | stop (ticket : Ticket) (h : run.phase = .draining false)
      (h' : run'.phase = .draining true) :
      Outcome id run run' [.claimed id (some ticket)]
  | drain (h : run.phase = .draining false) (h' : run'.phase = .cleaning false) :
      Outcome id run run' [.claimed id none]
  | leave (h : run.phase = .draining true) (h' : run'.phase = .cleaning true) :
      Outcome id run run' []
  | finish (cancelled : Bool) (h : run.phase = .cleaning cancelled)
      (h' : run'.phase = .ended cancelled) :
      Outcome id run run' [.published id (.finished run.key cancelled)]

theorem Work.isOfExecution_began (work : Work) :
  (Fact.began work :: work.atOnce).filter (!·.isOfExecution) = []
  := by
  rw [atOnce]
  split <;> rfl

theorem Run.Next.outcome {id : RunId} {now : Nat} {run run' : Run} {facts : List Fact}
    (h : Run.Next id now run facts run') :
  Run.Outcome id run run' (facts.filter (!·.isOfExecution))
  := by
  cases h with
  | beginBody hphase hready hnext =>
    rw [Work.isOfExecution_began]
    exact .same rfl
  | beginCleanUp hphase hready hnext =>
    rw [Work.isOfExecution_began]
    exact .same rfl
  | @call action call error hcalling hmakes => cases call <;> exact .same rfl
  | @takeUp action error hreturned =>
    rw [List.filter_cons_of_neg (by simp [Fact.isOfExecution])]
    by_cases hdraining : ∃ stopping, run.phase = .draining stopping
    · obtain ⟨stopping, hphase⟩ := hdraining
      rw [failure_of_draining hphase]
      cases error with
      | none => exact .same rfl
      | some e => exact .failed stopping action.line e hphase hphase
    · rw [failure_of_not_draining (not_exists.mp hdraining)]
      exact .same rfl
  | wake hwaiting hdue => exact .same rfl
  | stop ticket hphase => exact .stop ticket hphase rfl
  | drain hphase hready hnext => exact .drain hphase rfl
  | leave hphase hready => exact .leave hphase rfl
  | @finish cancelled hphase hready hnext => exact .finish cancelled hphase rfl

/-- What does not look at executions sees only what steps come to apart from them. -/
theorem Fact.filterMap_eq {α : Type} {g : Fact → Option α}
    (hg : ∀ fact : Fact, fact.isOfExecution → g fact = none) (facts : List Fact) :
  facts.filterMap g = (facts.filter (!·.isOfExecution)).filterMap g
  := by
  rw [List.filterMap_filter]
  congr 1
  funext fact
  by_cases hfact : fact.isOfExecution <;> simp [hfact, hg]

namespace Server

variable (s : Server)

/-! ### The history of the server -/

/-- All that has come about, earliest first. -/
def history : List Entry := s.journal.reverse

/-- All that has come about in a run, earliest first. -/
def historyOf (id : RunId) : List Entry := s.history.filter (·.isOf id)

/-- Facts that come about are the latest of the history. -/
theorem reverse_journalWith (facts : List Fact) :
  (s.journalWith facts).reverse = s.history ++ facts.map (Entry.mk s.clock)
  := by
  simp [journalWith, history]

/-- Facts about one run enter the history of that run. -/
theorem filter_isOf_self {id : RunId} {facts : List Fact} {time : Nat}
    (h : ∀ fact ∈ facts, fact.run? = some id) :
  (facts.map (Entry.mk time)).filter (·.isOf id) = facts.map (Entry.mk time)
  := by
  apply List.filter_eq_self.mpr
  intro entry hentry
  obtain ⟨fact, hfact, rfl⟩ := List.mem_map.mp hentry
  simp [Entry.isOf, h fact hfact]

/-- Facts about one run do not enter the history of another. -/
theorem filter_isOf_of_ne {id other : RunId} {facts : List Fact} {time : Nat}
    (h : ∀ fact ∈ facts, fact.run? = some id) (hne : other ≠ id) :
  (facts.map (Entry.mk time)).filter (·.isOf other) = []
  := by
  apply List.filter_eq_nil_iff.mpr
  intro entry hentry
  obtain ⟨fact, hfact, rfl⟩ := List.mem_map.mp hentry
  simp [Entry.isOf, h fact hfact, Ne.symm hne]

/-- Facts about no run enter the history of none. -/
theorem filter_isOf_of_none {id : RunId} {facts : List Fact} {time : Nat}
    (h : ∀ fact ∈ facts, fact.run? = none) :
  (facts.map (Entry.mk time)).filter (·.isOf id) = []
  := by
  apply List.filter_eq_nil_iff.mpr
  intro entry hentry
  obtain ⟨fact, hfact, rfl⟩ := List.mem_map.mp hentry
  simp [Entry.isOf, h fact hfact]

/-- A request that goes on tells of no run. -/
theorem Served.run?_eq {s : Server} {pending : List Pending} {facts : List Fact}
    (h : s.Served pending facts) {fact : Fact} (hmem : fact ∈ facts) :
  fact.run? = none
  := by
  cases h with
  | finishing ticket h => cases hmem
  | stoppingAll ticket ids => cases hmem
  | skip h hclaim => cases hmem
  | counted h hended => cases hmem
  | stopped h hended =>
    obtain rfl := List.mem_singleton.mp hmem
    rfl
  | ended h hended =>
    obtain rfl := List.mem_singleton.mp hmem
    rfl
  | stoppedAll h =>
    obtain rfl := List.mem_singleton.mp hmem
    rfl

/-- What the history of a run becomes as facts come about: it takes in those of the run. -/
theorem filter_reverse_journalWith (facts : List Fact) (id : RunId) :
  (s.journalWith facts).reverse.filter (·.isOf id)
    = s.historyOf id ++ (facts.map (Entry.mk s.clock)).filter (·.isOf id)
  := by
  rw [reverse_journalWith, List.filter_append, historyOf]

/-- Facts about no run leave the history of every run as it is. -/
theorem historyOf_of_none {facts : List Fact} (h : ∀ fact ∈ facts, fact.run? = none)
    (id : RunId) :
  (s.journalWith facts).reverse.filter (·.isOf id) = s.historyOf id
  := by
  rw [filter_reverse_journalWith, filter_isOf_of_none h, List.append_nil]

/-- Enrolling a timeline leaves all but the timelines as it is. -/
theorem enroll_eq (key : String) :
  ∃ timelines, s.enroll key = { s with timelines }
  := by
  rw [enroll]
  split
  · use s.timelines
  · use s.timelines ++ [({ key } : Timeline)]

/-- What holds of the journal of a server and its runs: no entry comes from the future, each
tells of a run that there is, if of any, and each run has a history that it can have. -/
structure Historic (s : Server) : Prop where
  time_le : ∀ entry ∈ s.journal, entry.time ≤ s.clock
  lt_length : ∀ entry ∈ s.journal, ∀ id, entry.fact.run? = some id → id < s.runs.length
  lived : ∀ id run, s.runs[id]? = some run → Run.Lived id run (s.historyOf id)

/-- Entries that are written now do not come from the future. -/
theorem Historic.time_le_journalWith {s : Server} (h : s.Historic) (facts : List Fact) :
  ∀ entry ∈ s.journalWith facts, entry.time ≤ s.clock
  := by
  intro entry hentry
  rcases List.mem_append.mp hentry with hnew | hold
  · obtain ⟨fact, -, rfl⟩ := List.mem_map.mp (List.mem_reverse.mp hnew)
    apply Nat.le_refl
  · apply h.time_le entry hold

/-- Entries that are written of runs that there are tell of such runs. -/
theorem Historic.lt_length_journalWith {s : Server} (h : s.Historic) {facts : List Fact}
    {length : Nat} (hle : s.runs.length ≤ length)
    (hfacts : ∀ fact ∈ facts, ∀ id, fact.run? = some id → id < length) :
  ∀ entry ∈ s.journalWith facts, ∀ id, entry.fact.run? = some id → id < length
  := by
  intro entry hentry id hid
  rcases List.mem_append.mp hentry with hnew | hold
  · obtain ⟨fact, hfact, rfl⟩ := List.mem_map.mp (List.mem_reverse.mp hnew)
    apply hfacts fact hfact id hid
  · apply Nat.lt_of_lt_of_le (h.lt_length entry hold id hid) hle

/-- Facts about no run leave the histories of all runs as they are. -/
theorem Historic.journalWith {s : Server} (h : s.Historic) {facts : List Fact}
    (hfacts : ∀ fact ∈ facts, fact.run? = none) (pending : List Pending) :
  Historic { s with pending, journal := s.journalWith facts }
  := by
  constructor
  · apply h.time_le_journalWith
  · apply h.lt_length_journalWith (Nat.le_refl _)
    intro fact hfact id hid
    rw [hfacts fact hfact] at hid
    cases hid
  · intro id run hrun
    have hhistory := historyOf_of_none s hfacts id
    rw [historyOf, history, hhistory]
    apply h.lived id run hrun

/-- A run that is not there has no history. -/
theorem Historic.historyOf_eq_nil {s : Server} (h : s.Historic) {id : RunId}
    (hid : s.runs.length ≤ id) :
  s.historyOf id = []
  := by
  apply List.filter_eq_nil_iff.mpr
  intro entry hentry hof
  have hlt := h.lt_length entry (List.mem_reverse.mp hentry) id (by simpa [Entry.isOf] using hof)
  apply Nat.not_lt.mpr hid hlt

/-- A run that is launched has a history from then on, and the other runs keep theirs. -/
theorem Historic.launch {s : Server} (h : s.Historic) (turns : List RunId)
    (timelines : List Timeline) (key : String) (body cleanUp : List Script.Action) :
  Historic { s with
    runs := s.runs ++ [({ key, body, cleanUp } : Run)]
    turns
    timelines
    journal := s.journalWith [.published s.runs.length (.started key body.length)] }
  := by
  have hrun? : ∀ fact ∈ [Fact.published s.runs.length (.started key body.length)],
      fact.run? = some s.runs.length := by
    intro fact hfact
    obtain rfl := List.mem_singleton.mp hfact
    rfl
  constructor
  · apply h.time_le_journalWith
  · apply h.lt_length_journalWith
    · simp
    · intro fact hfact id hid
      rw [hrun? fact hfact] at hid
      obtain rfl := Option.some.inj hid
      simp
  · intro id run hrun
    rw [historyOf, history, filter_reverse_journalWith]
    by_cases hid : id = s.runs.length
    · subst hid
      obtain rfl : { key, body, cleanUp } = run := by simpa using hrun
      rw [filter_isOf_self hrun?, h.historyOf_eq_nil (Nat.le_refl _), List.nil_append]
      apply Run.Lived.launched
    · have hlt := (List.getElem?_eq_some_iff.mp hrun).1
      simp only [List.length_append, List.length_singleton] at hlt
      have hold : id < s.runs.length := Nat.lt_of_le_of_ne (Nat.lt_succ_iff.mp hlt) hid
      rw [filter_isOf_of_ne hrun? hid, List.append_nil]
      apply h.lived id run
      rw [List.getElem?_append_left hold] at hrun
      apply hrun

/-- A run that takes a step has the facts of the step in its history, and the other runs keep
theirs. -/
theorem Historic.work {s : Server} (h : s.Historic) {id : RunId} {run run' : Run}
    {facts : List Fact} (hrun : s.runs[id]? = some run)
    (hnext : Run.Next id s.clock run facts run') (timelines : List Timeline)
    (pending : List Pending) :
  Historic { s with
    runs := s.runs.set id run', timelines, pending, journal := s.journalWith facts }
  := by
  have hlt := (List.getElem?_eq_some_iff.mp hrun).1
  constructor
  · apply h.time_le_journalWith
  · apply h.lt_length_journalWith
    · simp
    · intro fact hfact other hother
      rw [hnext.run?_eq hfact] at hother
      obtain rfl := Option.some.inj hother
      simpa using hlt
  · intro other run'' hrun''
    rw [historyOf, history, filter_reverse_journalWith]
    by_cases hother : other = id
    · subst hother
      obtain rfl : run' = run'' := by simpa [hlt] using hrun''
      rw [filter_isOf_self fun fact hfact => hnext.run?_eq hfact]
      apply Run.Lived.next (h.lived other run hrun) hnext
      intro entry hentry
      apply h.time_le entry
      apply List.mem_reverse.mp (List.mem_filter.mp hentry).1
    · rw [filter_isOf_of_ne (fun fact hfact => hnext.run?_eq hfact) hother, List.append_nil]
      apply h.lived other run''
      rw [List.getElem?_set_ne (Ne.symm hother)] at hrun''
      apply hrun''

/-- Whatever changes the server, each of its runs has a history that it can have. -/
theorem Historic.change {s t : Server} (h : s.Historic) (hchange : s.Change t) :
  t.Historic
  := by
  cases hchange with
  | aside commands awaiting hturns hclock =>
    constructor
    · intro entry hentry
      apply Nat.le_trans (h.time_le entry hentry) hclock
    · apply h.lt_length
    · apply h.lived
  | record fact hrun hstops =>
    have hfacts : ∀ fact' ∈ [fact], fact'.run? = none := by
      intro fact' hfact'
      obtain rfl := List.mem_singleton.mp hfact'
      apply hrun
    apply h.journalWith hfacts
  | enroll key =>
    obtain ⟨timelines, heq⟩ := enroll_eq s key
    rw [heq]
    exact ⟨h.time_le, h.lt_length, h.lived⟩
  | launch o body cleanUp hidle hknown hbody hcleanUp => apply h.launch
  | work hrun hnext hfollows => apply h.work hrun hnext
  | serve hserved => apply h.journalWith fun fact hfact => hserved.run?_eq hfact

theorem Historic.changes {s t : Server} (h : s.Historic) (hchanges : Changes s t) :
  t.Historic
  := by
  induction hchanges with
  | refl => apply h
  | tail _ hchange ih => apply ih.change hchange

/-- A new server has no runs, and nothing has come about in it. -/
theorem Historic.new (settings : Settings) (commands : List Host.Command)
    (awaiting : List Host.Awaiting) :
  Historic { settings, commands, awaiting }
  := by
  constructor
  · intro entry hentry
    cases hentry
  · intro entry hentry
    cases hentry
  · intro id run hrun
    cases hrun

/-- However a server comes about, each of its runs has a history that it can have. -/
theorem Reachable.historic {s : Server} (h : Reachable s) :
  s.Historic
  := by
  induction h with
  | new settings commands awaiting => apply Historic.new
  | change _ hchange ih => apply ih.change hchange

/-- The history of a run is one that the run can have. -/
theorem Reachable.lived {s : Server} (h : Reachable s) {id : RunId} {run : Run}
    (hrun : s.runs[id]? = some run) :
  Run.Lived id run (s.historyOf id)
  := h.historic.lived id run hrun

/-! ### The history goes on -/

section

variable {s t : Server}

/-- Nothing is taken out of the journal. -/
theorem Change.journal_suffix (h : s.Change t) :
  s.journal <:+ t.journal
  := by
  cases h with
  | aside commands awaiting hturns hclock => apply List.suffix_refl
  | record fact hrun hstops => apply List.suffix_cons
  | enroll key =>
    obtain ⟨timelines, heq⟩ := enroll_eq s key
    simp only [heq]
    apply List.suffix_refl
  | launch o body cleanUp hidle hknown hbody hcleanUp => apply List.suffix_append
  | work hrun hnext hfollows => apply List.suffix_append
  | serve hserved => apply List.suffix_append

theorem Changes.journal_suffix (h : Changes s t) :
  s.journal <:+ t.journal
  := by
  induction h with
  | refl => apply List.suffix_refl
  | tail _ hchange ih => apply ih.trans hchange.journal_suffix

/-- The history of a run goes on. -/
theorem Changes.historyOf_prefix (h : Changes s t) (id : RunId) :
  s.historyOf id <+: t.historyOf id
  := by
  have hhistory : s.history <+: t.history := List.reverse_prefix.mpr h.journal_suffix
  apply hhistory.filter

end

end Server

end CommandTimelines
