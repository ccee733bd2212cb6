import CommandTimelines.Proofs.Edits
import CommandTimelines.Proofs.Stopping

/-!
# Stops that are granted

A stop that is answered with success has claimed the end of a run, has waited for it, and has been
answered once. So one can go through the history of the server and find for each such answer a run
whose end was claimed under the ticket of the stop and was published as cancelled, both before the
answer, and no run is found twice (`Server.Granted`).
-/

namespace CommandTimelines

open Host

/-- To whom a stop was granted. -/
def Fact.granted? : Fact → Option Ticket
  | .answered _ (.stoppedAll _) => none
  | .answered ticket reply => if reply.stops = 0 then none else some ticket
  | _ => none

theorem Fact.granted?_of_stops {fact : Fact} (h : fact.stops = 0) :
  fact.granted? = none
  := by
  cases fact with
  | answered ticket reply =>
    have hstops : reply.stops = 0 := h
    cases reply <;> simp [granted?, hstops]
  | _ => rfl

theorem Fact.granted?_of_run {fact : Fact} {id : RunId} (h : fact.run? = some id) :
  fact.granted? = none
  := by
  cases fact with
  | answered ticket reply => cases h
  | _ => rfl

theorem Fact.granted?_reply (ticket : Ticket) (asker : Asker) :
  (Fact.answered ticket (asker.reply none)).granted? = some ticket
  := by
  have hstops := Server.stops_reply_none asker
  cases asker with
  | program => rfl
  | operator file =>
    rw [Asker.reply] at hstops ⊢
    rw [granted?, if_neg (by rw [hstops]; decide)]
    exact fun _ => Reply.noConfusion

/-- The run that a stop of one timeline waits for. -/
def Pending.stopped? : Pending → Option RunId
  | .stopping _ _ id => some id
  | _ => none

/-- Such a stop holds the end of the run. -/
theorem Pending.holds_of_stopped? {p : Pending} {id : RunId} (h : p.stopped? = some id) :
  Server.Holds id p
  := by
  cases p with
  | stopping ticket asker id' =>
    obtain rfl := Option.some.inj h
    exact ⟨rfl, rfl⟩
  | finishing ticket id' => cases h
  | stoppingAll ticket current rest count => cases h

namespace Server

variable {s t : Server} {id : RunId}

/-! ### Runs that have ended -/

/-- Whether a run has ended depends on its phase. -/
theorem hasEnded_iff {run : Run} (hrun : s.runs[id]? = some run) :
  s.hasEnded id ↔ ∃ cancelled, run.phase = .ended cancelled
  := by
  rw [hasEnded, hrun]
  obtain ⟨key, body, cleanUp, begun, cleaned, phase, activity⟩ := run
  cases phase with
  | ended cancelled => cases cancelled <;> simp [Run.isRunning, Run.state]
  | _ => simp [Run.isRunning, Run.state]

theorem exists_run_of_hasEnded (h : s.hasEnded id) :
  ∃ run, s.runs[id]? = some run
  := by
  rw [hasEnded] at h
  split at h
  · rename_i run hrun
    exact ⟨run, hrun⟩
  · cases h

/-- A run that has ended stays in the state that it has ended in. -/
theorem Reachable.final_of_changes (h : s.Reachable) (hchanges : Changes s t)
    (hended : s.hasEnded id) :
  t.hasEnded id ∧ t.runState id = s.runState id ∧ t.historyOf id = s.historyOf id
  := by
  obtain ⟨run, hrun⟩ := exists_run_of_hasEnded hended
  obtain ⟨cancelled, hphase⟩ := (hasEnded_iff hrun).mp hended
  obtain ⟨hrun', hhistory⟩ := h.ended_of_changes hchanges hrun hphase
  refine ⟨(hasEnded_iff hrun').mpr ⟨cancelled, hphase⟩, ?_, hhistory⟩
  rw [runState, runState, hrun, hrun']

/-! ### Grants -/

/-- `Granted history granted`: for each stop that was granted, in the order of the answers, there is
a run whose end was claimed under the ticket of the stop, and nobody else's, and was published once,
as cancelled, before the answer. These runs are different from each other. -/
inductive Granted : List Entry → List (Ticket × RunId) → Prop
  | nil : Granted [] []
  | other {history : List Entry} {granted : List (Ticket × RunId)} {entry : Entry}
      (h : Granted history granted) (hentry : entry.fact.granted? = none) :
      Granted (history ++ [entry]) granted
  | grant {history : List Entry} {granted : List (Ticket × RunId)} {entry : Entry}
      {ticket : Ticket} {id : RunId} (h : Granted history granted)
      (hentry : entry.fact.granted? = some ticket) (hnew : id ∉ granted.map (·.2))
      (hclaimed : Entry.claims (history.filter (·.isOf id)) = [some ticket])
      (hended : Entry.ends (history.filter (·.isOf id)) = [true]) :
      Granted (history ++ [entry]) (granted ++ [(ticket, id)])

/-- Nothing is granted by facts of other kinds. -/
theorem Granted.append {history : List Entry} {granted : List (Ticket × RunId)}
    (h : Granted history granted) {facts : List Fact} (hfacts : ∀ fact ∈ facts, fact.granted? = none)
    (time : Nat) :
  Granted (history ++ facts.map (Entry.mk time)) granted
  := by
  induction facts generalizing history with
  | nil => simpa using h
  | cons fact rest ih =>
    obtain ⟨hfact, hrest⟩ := List.forall_mem_cons.mp hfacts
    rw [List.map_cons, List.append_cons]
    exact ih (h.other hfact) hrest

/-- A stop claims the end of a run that has not ended, and that nobody has claimed. -/
theorem Reachable.unclaimed_of_stop (h : s.Reachable) {run run' : Run} {ticket : Ticket}
    (hrun : s.runs[id]? = some run)
    (hnext : Run.Next id s.clock run [.claimed id (some ticket)] run') :
  Entry.claims (s.historyOf id) = [] ∧ s.hasEnded id = false
  := by
  have hphase : run.phase = .draining false := by
    have houtcome : Run.Outcome id run run' [.claimed id (some ticket)] := hnext.outcome
    cases houtcome with
    | stop ticket hphase hphase' => exact hphase
  constructor
  · exact (h.lived hrun).claimed.eq_nil_iff.mpr hphase
  · rw [Bool.eq_false_iff]
    intro hended
    obtain ⟨cancelled, hended⟩ := (hasEnded_iff hrun).mp hended
    rw [hphase] at hended
    cases hended

/-- A run that a stop waits for, and that has ended, was claimed by the stop and has ended
cancelled. -/
theorem Reachable.cancelled_of_stopping (h : s.Reachable) {i : Nat} {ticket : Ticket}
    {asker : Asker} (hi : s.pending[i]? = some (.stopping ticket asker id))
    (hended : s.hasEnded id) :
  Entry.claims (s.historyOf id) = [some ticket] ∧ Entry.ends (s.historyOf id) = [true]
  := by
  have hclaims := h.claims_of_holds _ (List.mem_of_getElem? hi) id ⟨rfl, rfl⟩
  obtain ⟨run, hrun⟩ := exists_run_of_hasEnded hended
  obtain ⟨cancelled, hphase⟩ := (hasEnded_iff hrun).mp hended
  have hlived := h.lived hrun
  have hclaimed := hlived.claimed
  rw [hclaims, hphase] at hclaimed
  refine ⟨hclaims, ?_⟩
  rw [hlived.ends_eq, hphase]
  cases hclaimed with
  | ended stop => rfl

/-- A run that goes on leaves the stops that wait as they are, or one more waits, which has claimed
the end of the run. -/
theorem Follows.stopped_cases {pending pending' : List Pending} {facts : List Fact}
    (h : Follows id pending facts pending') :
  pending'.filterMap (·.stopped?) = pending.filterMap (·.stopped?) ∨
  ∃ ticket, facts = [.claimed id (some ticket)] ∧
    pending'.filterMap (·.stopped?) = pending.filterMap (·.stopped?) ++ [id]
  := by
  cases h with
  | own hown => exact .inl rfl
  | stopNext hi => exact .inl ((filterMap_of_none Pending.stopped? hi rfl).1 _ rfl)
  | stop ticket asker =>
    refine .inr ⟨ticket, rfl, ?_⟩
    rw [List.filterMap_append]
    rfl

/-- A request that goes on leaves the stops that wait as they are and grants none, or it is a stop
itself, and is granted. -/
theorem Served.stopped_cases {pending : List Pending} {facts : List Fact}
    (h : s.Served pending facts) :
  (pending.filterMap (·.stopped?) = s.pending.filterMap (·.stopped?) ∧
    ∀ fact ∈ facts, fact.granted? = none) ∨
  ∃ (i : Nat) (ticket : Ticket) (asker : Asker) (id : RunId),
    s.pending[i]? = some (.stopping ticket asker id) ∧ s.hasEnded id ∧
    pending = s.pending.eraseIdx i ∧ facts = [.answered ticket (asker.reply none)]
  := by
  have hsilent : ∀ fact ∈ ([] : List Fact), fact.granted? = none := List.forall_mem_nil _
  cases h with
  | finishing ticket hcurrent => exact .inl ⟨by simp [Pending.stopped?], hsilent⟩
  | stoppingAll ticket ids => exact .inl ⟨by simp [Pending.stopped?], hsilent⟩
  | skip hi hclaim => exact .inl ⟨(filterMap_of_none Pending.stopped? hi rfl).1 _ rfl, hsilent⟩
  | counted hi hdone => exact .inl ⟨(filterMap_of_none Pending.stopped? hi rfl).1 _ rfl, hsilent⟩
  | ended hi hdone =>
    exact .inl ⟨(filterMap_of_none Pending.stopped? hi rfl).2, List.forall_mem_singleton.mpr rfl⟩
  | stoppedAll hi =>
    exact .inl ⟨(filterMap_of_none Pending.stopped? hi rfl).2, List.forall_mem_singleton.mpr rfl⟩
  | @stopped i ticket asker id hi hdone => exact .inr ⟨i, ticket, asker, id, hi, hdone, rfl, rfl⟩

/-- The stops that a server has granted are stops of different runs that have ended, and the stops
that still wait are stops of others. -/
structure Grants (s : Server) (granted : List (Ticket × RunId)) : Prop where
  history : Granted s.history granted
  ended : ∀ a ∈ granted, s.hasEnded a.2
  distinct : (s.pending.filterMap (·.stopped?) ++ granted.map (·.2)).Nodup

namespace Grants

variable {granted : List (Ticket × RunId)} (h : s.Grants granted) (hs : s.Reachable)

include h hs

/-- A run whose end a stop claims has not ended, and no stop waits for it. -/
theorem not_mem {run run' : Run} {ticket : Ticket} (hrun : s.runs[id]? = some run)
    (hnext : Run.Next id s.clock run [.claimed id (some ticket)] run') :
  id ∉ s.pending.filterMap (·.stopped?) ++ granted.map (·.2)
  := by
  obtain ⟨hunclaimed, hrunning⟩ := hs.unclaimed_of_stop hrun hnext
  intro hmem
  rcases List.mem_append.mp hmem with hmem | hmem
  · obtain ⟨p, hp, hstopped⟩ := List.mem_filterMap.mp hmem
    have hclaims := hs.claims_of_holds p hp id (p.holds_of_stopped? hstopped)
    rw [hunclaimed] at hclaims
    cases hclaims
  · obtain ⟨a, ha, rfl⟩ := List.mem_map.mp hmem
    rw [h.ended a ha] at hrunning
    cases hrunning

/-- Nothing is granted by a change that leaves the stops that wait as they are and whose facts are of
other kinds. -/
theorem quiet (hchange : s.Change t) (facts : List Fact)
    (hjournal : t.journal = s.journalWith facts)
    (hfacts : ∀ fact ∈ facts, fact.granted? = none)
    (hdistinct : (t.pending.filterMap (·.stopped?) ++ granted.map (·.2)).Nodup) :
  t.Grants granted
  where
  history := by
    rw [Server.history, hjournal, reverse_journalWith]
    exact h.history.append hfacts s.clock
  ended a ha := (hs.final_of_changes (.single hchange) (h.ended a ha)).1
  distinct := hdistinct

/-- A stop whose run has ended is granted. -/
theorem grant {i : Nat} {ticket : Ticket} {asker : Asker}
    (hi : s.pending[i]? = some (.stopping ticket asker id)) (hdone : s.hasEnded id) :
  Grants { s with
      pending := s.pending.eraseIdx i
      journal := s.journalWith [.answered ticket (asker.reply none)] }
    (granted ++ [(ticket, id)])
  := by
  have hperm := (filterMap_of_some Pending.stopped? hi rfl).append_right (granted.map (·.2))
  have hdistinct := hperm.nodup_iff.mp h.distinct
  obtain ⟨hclaims, hends⟩ := hs.cancelled_of_stopping hi hdone
  constructor
  · rw [Server.history, reverse_journalWith]
    apply h.history.grant (Fact.granted?_reply ticket asker) _ hclaims hends
    obtain ⟨hnew, -⟩ := List.nodup_cons.mp hdistinct
    exact fun hmem => hnew (List.mem_append_right _ hmem)
  · intro a ha
    rcases List.mem_append.mp ha with ha | ha
    · exact h.ended a ha
    · obtain rfl := List.mem_singleton.mp ha
      exact hdone
  · rw [List.map_append, ← List.append_assoc]
    exact (List.perm_append_singleton _ _).nodup_iff.mpr hdistinct

/-- One change grants at most one stop. -/
theorem change (hchange : s.Change t) :
  ∃ granted', t.Grants granted'
  := by
  have hquiet := h.quiet hs hchange
  cases hchange with
  | aside commands awaiting hturns hclock =>
    exact ⟨granted, hquiet [] rfl (List.forall_mem_nil _) h.distinct⟩
  | record fact hrun hstops =>
    have hfacts : ∀ fact' ∈ [fact], fact'.granted? = none :=
      List.forall_mem_singleton.mpr (Fact.granted?_of_stops hstops)
    exact ⟨granted, hquiet _ rfl hfacts h.distinct⟩
  | enroll key =>
    obtain ⟨timelines, heq⟩ := enroll_eq s key
    rw [heq] at hquiet ⊢
    exact ⟨granted, hquiet [] rfl (List.forall_mem_nil _) h.distinct⟩
  | launch o body cleanUp hidle hknown hbody hcleanUp =>
    exact ⟨granted, hquiet _ rfl (List.forall_mem_singleton.mpr rfl) h.distinct⟩
  | work hrun hnext hfollows =>
    refine ⟨granted, hquiet _ rfl (fun fact hfact => Fact.granted?_of_run (hnext.run?_eq hfact)) ?_⟩
    obtain hsame | ⟨ticket, rfl, hmore⟩ := hfollows.stopped_cases
    · rw [hsame]
      exact h.distinct
    · rw [hmore, List.append_assoc]
      apply List.perm_middle.nodup_iff.mpr
      exact List.nodup_cons.mpr ⟨h.not_mem hs hrun hnext, h.distinct⟩
  | serve hserved =>
    obtain ⟨hsame, hfacts⟩ | ⟨i, ticket, asker, id, hi, hdone, rfl, rfl⟩ := hserved.stopped_cases
    · exact ⟨granted, hquiet _ rfl hfacts (hsame ▸ h.distinct)⟩
    · exact ⟨_, h.grant hs hi hdone⟩

end Grants

/-- However a server comes about, the stops that it has granted are stops of different runs, each of
which it claimed and saw end. -/
theorem Reachable.grants (h : s.Reachable) :
  ∃ granted, s.Grants granted
  := by
  induction h with
  | new settings commands awaiting => exact ⟨[], .nil, List.forall_mem_nil _, List.nodup_nil⟩
  | change hs hchange ih =>
    obtain ⟨granted, hgrants⟩ := ih
    exact hgrants.change hs hchange

end Server

end CommandTimelines
