import CommandTimelines.Proofs.Completion
import Mathlib

/-!
# The ends of runs

The end of a run is claimed once: by the run itself, when it has drained its body, or by one of
the stops. The run then publishes its end, once, and the end is marked cancelled if and only if
a stop has claimed it. A stop that comes too late is refused, or not counted.

* `Run.Lived.claimed` and `Run.Lived.ends_eq` say this of the history of one run.
* `Server.Reachable.stops_eq` relates the stops that were answered to the ends that stops have
  claimed, and `Server.Reachable.claims_eq` these to the ends that are marked cancelled.
* `Session.Reachable.endings` puts it all together: as soon as no stop is pending, as many
  stops have been reported as there are ends that are marked cancelled.
-/

namespace CommandTimelines

open Text

/-! ### One run -/

/-- The claim that a fact is. -/
def Fact.claim? : Fact → Option (Option Ticket)
  | .claimed _ stop => some stop
  | _ => none

/-- The end that a fact is, and whether it is marked cancelled. -/
def Fact.end? : Fact → Option Bool
  | .published _ (.finished _ cancelled) => some cancelled
  | _ => none

/-- The claims of ends that entries tell of. -/
def Entry.claims (entries : List Entry) : List (Option Ticket) :=
  (entries.map (·.fact)).filterMap Fact.claim?

/-- The ends that entries tell of. -/
def Entry.ends (entries : List Entry) : List Bool :=
  (entries.map (·.fact)).filterMap Fact.end?

theorem Entry.claims_append (entries later : List Entry) :
  claims (entries ++ later) = claims entries ++ claims later
  := by
  rw [claims, List.map_append, List.filterMap_append, ← claims, ← claims]

/-- The claims that there have been of the end of a run in a phase. -/
inductive Phase.Claimed : Phase → List (Option Ticket) → Prop
  | unclaimed : Claimed (.draining false) []
  | stopping (ticket : Ticket) : Claimed (.draining true) [some ticket]
  | cleaning (stop : Option Ticket) : Claimed (.cleaning stop.isSome) [stop]
  | ended (stop : Option Ticket) : Claimed (.ended stop.isSome) [stop]

/-- The end of a run has not been claimed as long as its body is drained and no stop has come. -/
theorem Phase.Claimed.eq_nil_iff {phase : Phase} {claims : List (Option Ticket)}
    (h : phase.Claimed claims) :
  claims = [] ↔ phase = .draining false
  := by
  cases h <;> simp

/-- The ends that a run in a phase has published. -/
def Phase.ends : Phase → List Bool
  | .ended cancelled => [cancelled]
  | _ => []

theorem Entry.map_fact_map_mk (facts : List Fact) (time : Nat) :
  (facts.map (Entry.mk time)).map (·.fact) = facts
  := by
  simp [Function.comp_def]

theorem Fact.claim?_of_isOfExecution (fact : Fact) (h : fact.isOfExecution) :
  fact.claim? = none
  := by
  cases fact with
  | claimed run stop => cases h
  | _ => rfl

theorem Fact.end?_of_isOfExecution (fact : Fact) (h : fact.isOfExecution) :
  fact.end? = none
  := by
  cases fact with
  | published run event => cases h
  | _ => rfl

namespace Run

variable {id : RunId} {run : Run} {history : List Entry}

/-- The end of a run is claimed once, and by a stop if and only if the run is cancelled. -/
theorem Lived.claimed (h : Lived id run history) :
  run.phase.Claimed (Entry.claims history)
  := by
  induction h with
  | launched key body cleanUp time => exact .unclaimed
  | @next run run' history now facts _ hnext htime ih =>
    rw [Entry.claims, List.map_append, List.filterMap_append, Entry.map_fact_map_mk,
      Fact.filterMap_eq Fact.claim?_of_isOfExecution facts, ← Entry.claims]
    have houtcome := hnext.outcome
    generalize facts.filter (!·.isOfExecution) = outcome at houtcome ⊢
    generalize Entry.claims history = claims at ih ⊢
    cases houtcome with
    | same hphase =>
      rw [hphase]
      simpa using ih
    | failed stopping line error hphase hphase' =>
      rw [hphase'.trans hphase.symm]
      simpa [List.filterMap_cons, Fact.claim?] using ih
    | stop ticket hphase hphase' =>
      rw [hphase] at ih
      rw [hphase']
      cases ih
      exact .stopping ticket
    | drain hphase hphase' =>
      rw [hphase] at ih
      rw [hphase']
      cases ih
      exact .cleaning none
    | leave hphase hphase' =>
      rw [hphase] at ih
      rw [hphase']
      cases ih with
      | stopping ticket => exact .cleaning (some ticket)
    | finish cancelled hphase hphase' =>
      rw [hphase] at ih
      rw [hphase']
      cases ih with
      | cleaning stop => exact .ended stop

/-- A run publishes its end once, when it has ended, and marks it as it has ended. -/
theorem Lived.ends_eq (h : Lived id run history) :
  Entry.ends history = run.phase.ends
  := by
  induction h with
  | launched key body cleanUp time => rfl
  | @next run run' history now facts _ hnext htime ih =>
    rw [Entry.ends, List.map_append, List.filterMap_append, Entry.map_fact_map_mk,
      Fact.filterMap_eq Fact.end?_of_isOfExecution facts, ← Entry.ends, ih]
    have houtcome := hnext.outcome
    generalize facts.filter (!·.isOfExecution) = outcome at houtcome ⊢
    cases houtcome with
    | same hphase => simp [hphase]
    | failed stopping line error hphase hphase' =>
      simp [Fact.end?, hphase, hphase', Phase.ends]
    | stop ticket hphase hphase' => simp [Fact.end?, hphase, hphase', Phase.ends]
    | drain hphase hphase' => simp [Fact.end?, hphase, hphase', Phase.ends]
    | leave hphase hphase' => simp [hphase, hphase', Phase.ends]
    | finish cancelled hphase hphase' => simp [Fact.end?, hphase, hphase', Phase.ends]

end Run

/-! ### Counting stops -/

/-- How many ends a fact says were claimed by a stop. -/
def Fact.stopClaims : Fact → Nat
  | .claimed _ (some _) => 1
  | _ => 0

/-- How many ends that are marked cancelled a fact tells of. -/
def Fact.cancelledEnds : Fact → Nat
  | .published _ (.finished _ true) => 1
  | _ => 0

/-- The total of a number over the facts of entries. -/
def Entry.total (f : Fact → Nat) (entries : List Entry) : Nat :=
  (entries.map fun entry => f entry.fact).sum

/-- How many ends a waiting request has claimed. -/
def Pending.stops : Pending → Nat
  | .stopping _ _ _ => 1
  | .finishing _ _ => 0
  | .stoppingAll _ current _ count => count + current.toList.length

@[simp]
theorem Pending.stops_stopping (ticket : Ticket) (asker : Asker) (id : RunId) :
  (stopping ticket asker id).stops = 1
  := rfl

@[simp]
theorem Pending.stops_finishing (ticket : Ticket) (id : RunId) :
  (finishing ticket id).stops = 0
  := rfl

@[simp]
theorem Pending.stops_stoppingAll_none (ticket : Ticket) (rest : List RunId) (count : Nat) :
  (stoppingAll ticket none rest count).stops = count
  := rfl

@[simp]
theorem Pending.stops_stoppingAll_some (ticket : Ticket) (id : RunId) (rest : List RunId)
    (count : Nat) :
  (stoppingAll ticket (some id) rest count).stops = count + 1
  := rfl

/-- Whether a request is a stop, of one run or of several. -/
def Pending.isStop : Pending → Bool
  | .finishing _ _ => false
  | _ => true

/-- How many ends that stops have claimed a run has still to publish. -/
def Phase.stopsDue : Phase → Nat
  | .draining true => 1
  | .cleaning true => 1
  | _ => 0

/-! ### Sums -/

theorem sum_map_eq_foldr {α : Type} (f : α → Nat) (xs : List α) :
  (xs.map f).sum = xs.foldr (fun a n => f a + n) 0
  := by
  rw [List.sum_eq_foldr, List.foldr_map]

/-- Putting another element in a place of a list changes a sum over it by the difference. -/
theorem sum_map_set {α : Type} (f : α → Nat) {xs : List α} {i : Nat} {x : α}
    (h : xs[i]? = some x) (y : α) :
  ((xs.set i y).map f).sum + f x = (xs.map f).sum + f y
  := by
  rw [sum_map_eq_foldr, sum_map_eq_foldr]
  apply foldr_add_set f h

/-- Taking an element out of a list lowers a sum over it by what the element adds. -/
theorem sum_map_eraseIdx {α : Type} (f : α → Nat) {xs : List α} {i : Nat} {x : α}
    (h : xs[i]? = some x) :
  ((xs.eraseIdx i).map f).sum + f x = (xs.map f).sum
  := by
  rw [sum_map_eq_foldr, sum_map_eq_foldr]
  apply foldr_add_eraseIdx f h

theorem sum_map_concat {α : Type} (f : α → Nat) (xs : List α) (x : α) :
  ((xs ++ [x]).map f).sum = (xs.map f).sum + f x
  := by
  simp

/-- What does not look at executions counts only what steps come to apart from them. -/
theorem Fact.sum_map_eq {f : Fact → Nat} (hf : ∀ fact : Fact, fact.isOfExecution → f fact = 0)
    (facts : List Fact) :
  (facts.map f).sum = ((facts.filter (!·.isOfExecution)).map f).sum
  := by
  induction facts with
  | nil => rfl
  | cons fact facts ih =>
    by_cases hfact : fact.isOfExecution
    · rw [List.filter_cons_of_neg (by simp [hfact]), List.map_cons, List.sum_cons, hf fact hfact,
        Nat.zero_add, ih]
    · rw [List.filter_cons_of_pos (by simp [hfact]), List.map_cons, List.map_cons,
        List.sum_cons, List.sum_cons, ih]

theorem Fact.sum_map_eq_zero {f : Fact → Nat} {facts : List Fact}
    (h : ∀ fact ∈ facts, f fact = 0) :
  (facts.map f).sum = 0
  := by
  rw [List.sum_eq_zero_iff_forall_eq_nat]
  simpa using h

theorem Fact.stopClaims_of_run?_eq_none {fact : Fact} (h : fact.run? = none) :
  fact.stopClaims = 0
  := by
  cases fact with
  | claimed run stop => cases h
  | _ => rfl

theorem Fact.cancelledEnds_of_run?_eq_none {fact : Fact} (h : fact.run? = none) :
  fact.cancelledEnds = 0
  := by
  cases fact with
  | published run event => cases h
  | _ => rfl

theorem Fact.stops_of_run?_eq_some {fact : Fact} {id : RunId} (h : fact.run? = some id) :
  fact.stops = 0
  := by
  cases fact with
  | answered ticket reply => cases h
  | _ => rfl

theorem Fact.stopClaims_of_isOfExecution (fact : Fact) (h : fact.isOfExecution) :
  fact.stopClaims = 0
  := by
  cases fact with
  | claimed run stop => cases h
  | _ => rfl

theorem Fact.cancelledEnds_of_isOfExecution (fact : Fact) (h : fact.isOfExecution) :
  fact.cancelledEnds = 0
  := by
  cases fact with
  | published run event => cases h
  | _ => rfl

/-- What a step of a run adds to the ends that stops have claimed is published as a cancelled
end, or still to be published. -/
theorem Run.Next.stopClaims_eq {id : RunId} {now : Nat} {run run' : Run} {facts : List Fact}
    (h : Run.Next id now run facts run') :
  (facts.map Fact.stopClaims).sum + run.phase.stopsDue
    = (facts.map Fact.cancelledEnds).sum + run'.phase.stopsDue
  := by
  rw [Fact.sum_map_eq Fact.stopClaims_of_isOfExecution,
    Fact.sum_map_eq Fact.cancelledEnds_of_isOfExecution]
  have houtcome := h.outcome
  generalize facts.filter (!·.isOfExecution) = outcome at houtcome ⊢
  cases houtcome with
  | same hphase => rw [hphase]; rfl
  | failed stopping line error hphase hphase' => rw [hphase, hphase']; rfl
  | stop ticket hphase hphase' => rw [hphase, hphase']; rfl
  | drain hphase hphase' => rw [hphase, hphase']; rfl
  | leave hphase hphase' => rw [hphase, hphase']; rfl
  | finish cancelled hphase hphase' => rw [hphase, hphase']; cases cancelled <;> rfl

namespace Server

variable {s : Server}

theorem total_journalWith (f : Fact → Nat) (facts : List Fact) :
  Entry.total f (s.journalWith facts) = (facts.map f).sum + Entry.total f s.journal
  := by
  simp [Entry.total, journalWith, List.sum_reverse, Function.comp_def]

/-- As a run goes on, the pending stops claim the ends that stops claim. -/
theorem Follows.stops_eq {id : RunId} {pending pending' : List Pending} {facts : List Fact}
    (h : Follows id pending facts pending') (hrun : ∀ fact ∈ facts, fact.run? = some id) :
  (pending'.map (·.stops)).sum = (pending.map (·.stops)).sum + (facts.map Fact.stopClaims).sum
  := by
  cases h with
  | own hown =>
    have hclaims : (facts.map Fact.stopClaims).sum = 0 := by
      apply Fact.sum_map_eq_zero
      intro fact hfact
      have hid := hrun fact hfact
      cases fact with
      | claimed run stop =>
        obtain rfl := Option.some.inj hid
        cases stop with
        | none => rfl
        | some ticket => exact absurd hfact (hown ticket)
      | _ => rfl
    rw [hclaims, Nat.add_zero]
  | stop ticket asker =>
    rw [sum_map_concat]
    rfl
  | @stopNext i ticket rest count hi =>
    have hset := sum_map_set (·.stops) hi (.stoppingAll ticket (some id) rest count)
    simp only [Pending.stops_stoppingAll_none, Pending.stops_stoppingAll_some] at hset
    simp only [List.map_cons, List.map_nil, List.sum_cons, List.sum_nil, Fact.stopClaims]
    omega

/-- A request that goes on or is answered loses none of the ends that stops have claimed. -/
theorem Served.stops_eq {pending : List Pending} {facts : List Fact}
    (h : s.Served pending facts) :
  (facts.map Fact.stops).sum + (pending.map (·.stops)).sum = (s.pending.map (·.stops)).sum
  := by
  cases h with
  | finishing ticket hcurrent => simp
  | stoppingAll ticket ids => simp
  | @skip i ticket id rest count hi hclaim =>
    have hset := sum_map_set (·.stops) hi (.stoppingAll ticket none rest count)
    simpa using hset
  | @counted i ticket id rest count hi hended =>
    have hset := sum_map_set (·.stops) hi (.stoppingAll ticket none rest (count + 1))
    simpa using hset
  | @stopped i ticket asker id hi hended =>
    have herase := sum_map_eraseIdx (·.stops) hi
    simpa [Fact.stops, Nat.add_comm] using herase
  | @ended i ticket id hi hended =>
    have herase := sum_map_eraseIdx (·.stops) hi
    simpa [Fact.stops, Reply.stops] using herase
  | @stoppedAll i ticket count hi =>
    have herase := sum_map_eraseIdx (·.stops) hi
    simpa [Fact.stops, Reply.stops, Nat.add_comm] using herase

/-- Every end that a stop has claimed is one that a stop has reported, or one that a pending
stop has claimed. -/
theorem Reachable.stops_eq (h : Reachable s) :
  Entry.total Fact.stops s.journal + (s.pending.map (·.stops)).sum
    = Entry.total Fact.stopClaims s.journal
  := by
  induction h with
  | new settings commands awaiting => rfl
  | @change s t hs hchange ih =>
    cases hchange with
    | aside commands awaiting hturns hclock => apply ih
    | record fact hrun hstops =>
      have hclaims := Fact.stopClaims_of_run?_eq_none hrun
      simp only [record, Entry.total, List.map_cons, List.sum_cons, hstops, hclaims, Nat.zero_add]
      apply ih
    | enroll key =>
      obtain ⟨timelines, heq⟩ := enroll_eq s key
      rw [heq]
      apply ih
    | launch o body cleanUp hidle hknown hbody hcleanUp =>
      simp only [total_journalWith]
      simpa [Fact.stops, Fact.stopClaims] using ih
    | @work id run run' facts pending hrun hnext hfollows =>
      have hstops : (facts.map Fact.stops).sum = 0 := by
        apply Fact.sum_map_eq_zero
        intro fact hfact
        apply Fact.stops_of_run?_eq_some (hnext.run?_eq hfact)
      have hpending := hfollows.stops_eq fun fact hfact => hnext.run?_eq hfact
      simp only [total_journalWith, hstops]
      omega
    | @serve pending facts hserved =>
      have hclaims : (facts.map Fact.stopClaims).sum = 0 := by
        apply Fact.sum_map_eq_zero
        intro fact hfact
        apply Fact.stopClaims_of_run?_eq_none (hserved.run?_eq hfact)
      have hpending := hserved.stops_eq
      simp only [total_journalWith, hclaims]
      omega

/-- Every end that a stop has claimed is marked cancelled, or is still to be published. -/
theorem Reachable.claims_eq (h : Reachable s) :
  Entry.total Fact.stopClaims s.journal
    = Entry.total Fact.cancelledEnds s.journal + (s.runs.map (·.phase.stopsDue)).sum
  := by
  induction h with
  | new settings commands awaiting => rfl
  | @change s t hs hchange ih =>
    cases hchange with
    | aside commands awaiting hturns hclock => apply ih
    | record fact hrun hstops =>
      have hclaims := Fact.stopClaims_of_run?_eq_none hrun
      have hends := Fact.cancelledEnds_of_run?_eq_none hrun
      simp only [record, Entry.total, List.map_cons, List.sum_cons, hends, hclaims, Nat.zero_add]
      apply ih
    | enroll key =>
      obtain ⟨timelines, heq⟩ := enroll_eq s key
      rw [heq]
      apply ih
    | launch o body cleanUp hidle hknown hbody hcleanUp =>
      simp only [total_journalWith, sum_map_concat]
      simpa [Fact.stopClaims, Fact.cancelledEnds, Phase.stopsDue] using ih
    | @work id run run' facts pending hrun hnext hfollows =>
      have hstep := hnext.stopClaims_eq
      have hset := sum_map_set (fun run : Run => run.phase.stopsDue) hrun run'
      simp only [total_journalWith]
      omega
    | @serve pending facts hserved =>
      have hclaims : (facts.map Fact.stopClaims).sum = 0 := by
        apply Fact.sum_map_eq_zero
        intro fact hfact
        apply Fact.stopClaims_of_run?_eq_none (hserved.run?_eq hfact)
      have hends : (facts.map Fact.cancelledEnds).sum = 0 := by
        apply Fact.sum_map_eq_zero
        intro fact hfact
        apply Fact.cancelledEnds_of_run?_eq_none (hserved.run?_eq hfact)
      simp only [total_journalWith, hclaims, hends, Nat.zero_add]
      apply ih

/-! ### Pending stops -/

/-- Whether a request is a stop that has claimed the end of a run and waits for it. -/
def Holds (id : RunId) (p : Pending) : Prop := p.isStop ∧ p.run? = some id

/-- Another element stays in a list when one is put in a place. -/
theorem mem_set_of_ne {α : Type} {xs : List α} {i : Nat} {x y : α} (h : xs[i]? = some x)
    {z : α} (hz : z ∈ xs) (hne : z ≠ x) :
  z ∈ xs.set i y
  := by
  obtain ⟨j, hj⟩ := List.mem_iff_getElem?.mp hz
  apply List.mem_iff_getElem?.mpr
  use j
  rw [List.getElem?_set_ne, hj]
  rintro rfl
  apply hne (Option.some.inj (hj.symm.trans h))

/-- Another element stays in a list when one is taken out. -/
theorem mem_eraseIdx_of_ne {α : Type} {xs : List α} {i : Nat} {x : α} (h : xs[i]? = some x)
    {z : α} (hz : z ∈ xs) (hne : z ≠ x) :
  z ∈ xs.eraseIdx i
  := by
  obtain ⟨j, hj⟩ := List.mem_iff_getElem?.mp hz
  apply List.mem_eraseIdx_iff_getElem?.mpr
  use j, ?_, hj
  rintro rfl
  apply hne (Option.some.inj (hj.symm.trans h))

/-- As a run goes on, stops go on waiting. -/
theorem Follows.exists_holds {id other : RunId} {pending pending' : List Pending}
    {facts : List Fact} (h : Follows id pending facts pending')
    (hold : ∃ p ∈ pending, Holds other p) :
  ∃ p ∈ pending', Holds other p
  := by
  obtain ⟨p, hp, hstop, hwaits⟩ := hold
  cases h with
  | own hown => exact ⟨p, hp, hstop, hwaits⟩
  | stop ticket asker => exact ⟨p, List.mem_append_left _ hp, hstop, hwaits⟩
  | stopNext hi =>
    refine ⟨p, mem_set_of_ne hi hp ?_, hstop, hwaits⟩
    rintro rfl
    cases hwaits

/-- A stop that claims the end of a run waits for it from then on. -/
theorem Follows.exists_holds_of_claimed {id : RunId} {pending pending' : List Pending}
    {facts : List Fact} (h : Follows id pending facts pending') {ticket : Ticket}
    (hclaimed : .claimed id (some ticket) ∈ facts) :
  ∃ p ∈ pending', Holds id p
  := by
  cases h with
  | own hown => exact absurd hclaimed (hown ticket)
  | stop ticket' asker =>
    exact ⟨.stopping ticket' asker id, by simp, rfl, rfl⟩
  | @stopNext i ticket' rest count hi =>
    have hlt := (List.getElem?_eq_some_iff.mp hi).1
    exact ⟨.stoppingAll ticket' (some id) rest count, List.mem_set hlt _, rfl, rfl⟩

/-- A stop goes on waiting until its run has ended. -/
theorem Served.exists_holds {pending : List Pending} {facts : List Fact}
    (h : s.Served pending facts) {id : RunId} (hended : s.hasEnded id = false)
    (hold : ∃ p ∈ s.pending, Holds id p) :
  ∃ p ∈ pending, Holds id p
  := by
  obtain ⟨p, hp, hstop, hwaits⟩ := hold
  have hnot : ∀ other, s.hasEnded other → p.run? ≠ some other := by
    rintro other hother hrun
    rw [hwaits] at hrun
    rw [← Option.some.inj hrun, hended] at hother
    cases hother
  cases h with
  | finishing ticket hcurrent => exact ⟨p, List.mem_append_left _ hp, hstop, hwaits⟩
  | stoppingAll ticket ids => exact ⟨p, List.mem_append_left _ hp, hstop, hwaits⟩
  | skip hi hclaim =>
    refine ⟨p, mem_set_of_ne hi hp ?_, hstop, hwaits⟩
    rintro rfl
    cases hwaits
  | counted hi hother =>
    refine ⟨p, mem_set_of_ne hi hp ?_, hstop, hwaits⟩
    rintro rfl
    apply hnot _ hother rfl
  | stopped hi hother =>
    refine ⟨p, mem_eraseIdx_of_ne hi hp ?_, hstop, hwaits⟩
    rintro rfl
    apply hnot _ hother rfl
  | ended hi hother =>
    refine ⟨p, mem_eraseIdx_of_ne hi hp ?_, hstop, hwaits⟩
    rintro rfl
    cases hstop
  | stoppedAll hi =>
    refine ⟨p, mem_eraseIdx_of_ne hi hp ?_, hstop, hwaits⟩
    rintro rfl
    cases hwaits

/-- A run that begins to owe a stop its end has just been claimed by one. -/
theorem exists_claimed_of_stopsDue {id : RunId} {now : Nat} {run run' : Run}
    {facts : List Fact} (hnext : Run.Next id now run facts run')
    (hbefore : run.phase.stopsDue = 0) (hafter : run'.phase.stopsDue ≠ 0) :
  ∃ ticket, .claimed id (some ticket) ∈ facts
  := by
  cases hnext with
  | stop ticket hphase => exact ⟨ticket, List.mem_cons_self⟩
  | leave hphase hready =>
    rw [hphase] at hbefore
    cases hbefore
  | drain hphase hready hnext => exact absurd rfl hafter
  | finish hphase hready hnext => exact absurd rfl hafter
  | _ => exact absurd hbefore hafter

/-- A run that owes a stop its end has not ended. -/
theorem hasEnded_eq_false_of_stopsDue {id : RunId} {run : Run} (hrun : s.runs[id]? = some run)
    (hdue : run.phase.stopsDue ≠ 0) :
  s.hasEnded id = false
  := by
  rw [hasEnded, hrun]
  cases hphase : run.phase with
  | ended cancelled =>
    rw [hphase] at hdue
    apply absurd rfl hdue
  | _ => simp [Run.isRunning, Run.state, hphase]

/-- For each run whose end a stop has claimed and that has not ended, a stop is waiting. -/
theorem Reachable.exists_holds (h : Reachable s) :
  ∀ id run, s.runs[id]? = some run → run.phase.stopsDue ≠ 0 → ∃ p ∈ s.pending, Holds id p
  := by
  induction h with
  | new settings commands awaiting =>
    intro id run hrun
    cases hrun
  | @change s t hs hchange ih =>
    cases hchange with
    | aside commands awaiting hturns hclock => apply ih
    | record fact hrun hstops => apply ih
    | enroll key =>
      obtain ⟨timelines, heq⟩ := enroll_eq s key
      rw [heq]
      apply ih
    | launch o body cleanUp hidle hknown hbody hcleanUp =>
      intro id run hrun hdue
      by_cases hlt : id < s.runs.length
      · rw [List.getElem?_append_left hlt] at hrun
        apply ih id run hrun hdue
      · rw [List.getElem?_append_right (Nat.not_lt.mp hlt)] at hrun
        obtain rfl := List.mem_singleton.mp (List.mem_of_getElem? hrun)
        apply absurd rfl hdue
    | @work id run run' facts pending hrun hnext hfollows =>
      have hlt := (List.getElem?_eq_some_iff.mp hrun).1
      intro other run'' hrun'' hdue
      by_cases hother : other = id
      · subst hother
        obtain rfl : run' = run'' := by simpa [hlt] using hrun''
        by_cases hbefore : run.phase.stopsDue = 0
        · obtain ⟨ticket, hclaimed⟩ := exists_claimed_of_stopsDue hnext hbefore hdue
          apply hfollows.exists_holds_of_claimed hclaimed
        · apply hfollows.exists_holds (ih other run hrun hbefore)
      · rw [List.getElem?_set_ne (Ne.symm hother)] at hrun''
        apply hfollows.exists_holds (ih other run'' hrun'' hdue)
    | serve hserved =>
      intro id run hrun hdue
      apply hserved.exists_holds (hasEnded_eq_false_of_stopsDue hrun hdue)
      apply ih id run hrun hdue

/-- As soon as no stop is pending, as many stops have been reported as there are ends that are
marked cancelled. -/
theorem Reachable.stops_eq_cancelledEnds (h : Reachable s)
    (hnone : ∀ p ∈ s.pending, p.isStop = false) :
  Entry.total Fact.stops s.journal = Entry.total Fact.cancelledEnds s.journal
  := by
  have hpending : (s.pending.map (·.stops)).sum = 0 := by
    rw [List.sum_eq_zero_iff_forall_eq_nat]
    intro n hn
    obtain ⟨p, hp, rfl⟩ := List.mem_map.mp hn
    have hstop := hnone p hp
    cases p with
    | finishing ticket id => rfl
    | _ => cases hstop
  have hruns : (s.runs.map (·.phase.stopsDue)).sum = 0 := by
    rw [List.sum_eq_zero_iff_forall_eq_nat]
    intro n hn
    obtain ⟨run, hrun, rfl⟩ := List.mem_map.mp hn
    obtain ⟨id, hid⟩ := List.mem_iff_getElem?.mp hrun
    by_contra hdue
    obtain ⟨p, hp, hstop, -⟩ := h.exists_holds id run hid hdue
    rw [hnone p hp] at hstop
    cases hstop
  have hstops := h.stops_eq
  have hclaims := h.claims_eq
  omega

/-! ### What becomes of stops -/

/-- A stop comes in time if the end of its run has not been claimed. -/
theorem Reachable.claims_eq_nil_iff (h : Reachable s) {id : RunId} {run : Run}
    (hrun : s.runs[id]? = some run) :
  Entry.claims (s.historyOf id) = [] ↔ run.phase = .draining false
  := (h.lived hrun).claimed.eq_nil_iff

theorem Reachable.claim?_eq_none (h : Reachable s) {id : RunId}
    (hclaimed : Entry.claims (s.historyOf id) ≠ []) (ticket : Ticket) :
  s.claim? ticket id = none
  := by
  rw [claim?_eq_none_iff]
  intro run hrun hphase
  apply hclaimed
  apply (h.claims_eq_nil_iff hrun).mpr hphase

/-- A stop of a run whose end has been claimed is refused. -/
theorem Reachable.stop_eq_of_claimed (h : Reachable s) {file key : String} {id : RunId}
    (hkey : Path.key? file = some key) (hcurrent : s.currentRun? key = some id)
    (hclaimed : Entry.claims (s.historyOf id) ≠ []) (ticket : Ticket) (asker : Asker) :
  s.stop ticket asker file = s.answer ticket (asker.reply (some (.notRunning key)))
  := by
  have hclaim := h.claim?_eq_none hclaimed ticket
  simp [stop, hkey, hcurrent, hclaim]

/-- A stop of a run whose end has not been claimed claims it, and waits for the run. -/
theorem Reachable.stop_of_unclaimed (h : Reachable s) {file key : String} {id : RunId}
    (hkey : Path.key? file = some key) (hcurrent : s.currentRun? key = some id)
    (hunclaimed : Entry.claims (s.historyOf id) = []) (ticket : Ticket) (asker : Asker) :
  Entry.claims ((s.stop ticket asker file).historyOf id) = [some ticket] ∧
  (s.stop ticket asker file).pending = s.pending ++ [.stopping ticket asker id]
  := by
  obtain ⟨run, hrun, -⟩ := h.kept.key_of_current key id hcurrent
  have hphase := (h.claims_eq_nil_iff hrun).mp hunclaimed
  cases hclaim : s.claim? ticket id with
  | none => exact absurd hphase ((claim?_eq_none_iff s).mp hclaim run hrun)
  | some s' =>
    have hstop : s.stop ticket asker file = s'.await (.stopping ticket asker id) := by
      simp [stop, hkey, hcurrent, hclaim]
    obtain ⟨run', -, -, rfl⟩ := exists_of_claim? s hclaim
    rw [hstop]
    have hclaims : Entry.claims (s.historyOf id ++ [⟨s.clock, .claimed id (some ticket)⟩])
        = [some ticket] := by
      rw [Entry.claims_append, hunclaimed]
      rfl
    constructor
    · rw [← hclaims]
      congr 1
      split <;>
        simp [historyOf, history, await, log, record, yieldTurn, updateRun, Entry.isOf,
          Fact.run?]
    · split <;> rfl

/-- A stop of several runs does not count one whose end has been claimed. -/
theorem Reachable.serve_of_claimed (h : Reachable s) {i : Nat} {ticket : Ticket} {id : RunId}
    {rest : List RunId} {count : Nat}
    (hi : s.pending[i]? = some (.stoppingAll ticket none (id :: rest) count))
    (hclaimed : Entry.claims (s.historyOf id) ≠ []) :
  s.serve i = { s with pending := s.pending.set i (.stoppingAll ticket none rest count) }
  := by
  have hclaim := h.claim?_eq_none hclaimed ticket
  simp [serve, hi, isDue, hclaim]

theorem total_history (f : Fact → Nat) :
  Entry.total f s.history = Entry.total f s.journal
  := by
  simp [Entry.total, history, List.sum_reverse]

end Server

/-- However the ends of runs and the stops come about: the end of a run is claimed once, and
the run publishes its end once, marked cancelled if and only if a stop has claimed it. A stop
of a run whose end is not claimed claims it; another one is refused, or not counted. As soon as
no stop is pending, as many stops have been reported as there are ends that are marked
cancelled. And if only time passes then every run ends. -/
theorem Session.Reachable.endings {session : Session} (h : Reachable session) :
  (∀ id run, session.server.runs[id]? = some run →
    (Entry.claims (session.server.historyOf id)).length ≤ 1 ∧
    (run.isRunning → Entry.ends (session.server.historyOf id) = []) ∧
    (run.isRunning = false →
      ∃ stop, Entry.claims (session.server.historyOf id) = [stop] ∧
        Entry.ends (session.server.historyOf id) = [stop.isSome])) ∧
  (∀ ticket asker file key id, Path.key? file = some key →
    session.server.currentRun? key = some id →
    (Entry.claims (session.server.historyOf id) = [] →
      Entry.claims ((session.server.stop ticket asker file).historyOf id) = [some ticket] ∧
      (session.server.stop ticket asker file).pending
        = session.server.pending ++ [.stopping ticket asker id]) ∧
    (Entry.claims (session.server.historyOf id) ≠ [] →
      session.server.stop ticket asker file
        = session.server.answer ticket (asker.reply (some (.notRunning key))))) ∧
  (∀ i ticket id rest count,
    session.server.pending[i]? = some (.stoppingAll ticket none (id :: rest) count) →
    Entry.claims (session.server.historyOf id) ≠ [] →
    session.server.serve i = { session.server with
      pending := session.server.pending.set i (.stoppingAll ticket none rest count) }) ∧
  ((∀ p ∈ session.server.pending, p.isStop = false) →
    Entry.total Fact.stops session.server.history
      = Entry.total Fact.cancelledEnds session.server.history) ∧
  (∀ index, ∃ milliseconds,
    (session.after index (.advance milliseconds)).server.IsComplete)
  := by
  refine ⟨?_, ?_, ?_, ?_, h.completes⟩
  · intro id run hrun
    have hclaimed := (h.server.lived hrun).claimed
    have hends := (h.server.lived hrun).ends_eq
    rw [Run.isRunning, Run.state, hends]
    generalize Entry.claims (session.server.historyOf id) = claims at hclaimed ⊢
    generalize run.phase = phase at hclaimed ⊢
    cases hclaimed with
    | unclaimed => simp [Phase.ends]
    | stopping ticket => simp [Phase.ends]
    | cleaning stop => simp [Phase.ends]
    | ended stop => cases stop <;> simp [Phase.ends]
  · intro ticket asker file key id hkey hcurrent
    constructor
    · intro hunclaimed
      apply h.server.stop_of_unclaimed hkey hcurrent hunclaimed
    · intro hclaimed
      apply h.server.stop_eq_of_claimed hkey hcurrent hclaimed
  · intro i ticket id rest count hi hclaimed
    apply h.server.serve_of_claimed hi hclaimed
  · intro hnone
    rw [Server.total_history, Server.total_history]
    apply h.server.stops_eq_cancelledEnds hnone

/-- A timeline that was stopped while it waited: one stop is reported, and one end is marked
cancelled. -/
theorem endings_of_stopped_wait :
  let session := ((Session.happen {} (.commit ⟨"show", "#wait 5", []⟩)).after 0
    (.advance 1)).after 1 (.stop "show")
  Entry.total Fact.stops session.server.history = 1 ∧
  Entry.total Fact.cancelledEnds session.server.history = 1
  := by
  intro session
  have hreachable : session.Reachable :=
    .after (.after (.happen (.new {} {} [] []) _) 0 _) 1 _
  obtain ⟨-, -, -, hcount, -⟩ := Session.Reachable.endings hreachable
  have hstops : Entry.total Fact.stops session.server.history = 1 := by decide +kernel
  exact ⟨hstops, (hcount (by decide +kernel)).symm.trans hstops⟩

end CommandTimelines
