import CommandTimelines.Proofs.Cells
import CommandTimelines.Proofs.Grants
import CommandTimelines.Proofs.Inquiries
import CommandTimelines.Proofs.Respelling

/-!
# Holding on to a run

Whoever has started a run, or asked for the current run of a file, can hold on to it and ask it for
its state at any later time, whatever has become of the timeline since. The state of a run is what
its history says: running until its end is published, and from then on forever what this event says
(`Server.Reachable.state_cases`). Whoever asks to be told of the end is told once, when the end is
published or, if it has been already, at once, and is told the state that the run has from then on
(`Server.Informs`). A stop that is granted is one that has claimed the end of a run and whose run has
published its end as cancelled (`Server.Granted`).

A session is *attended* (`Session.Attended`) if it comes about by any happenings in any order, and by
questions that are asked in between by those who hold on to runs.
-/

namespace CommandTimelines

open Host Script Text

/-! ### The state of a run -/

namespace Server

variable {s t : Server} {id : RunId}

/-- A run is running and has not published its end, or it has ended and has published its end once,
as its state says. -/
theorem Reachable.state_cases (h : s.Reachable) (hid : id < s.runs.length) :
  (s.hasEnded id = false ∧ s.runState id = .running ∧ Entry.ends (s.historyOf id) = []) ∨
  ∃ cancelled, s.hasEnded id ∧ s.runState id = .ofEnd cancelled ∧
    Entry.ends (s.historyOf id) = [cancelled]
  := by
  have hrun := List.getElem?_eq_getElem hid
  generalize s.runs[id] = run at hrun
  have hends := (h.lived hrun).ends_eq
  cases hended : s.hasEnded id with
  | true =>
    obtain ⟨cancelled, hphase⟩ := (hasEnded_iff hrun).mp hended
    refine .inr ⟨cancelled, rfl, ?_, ?_⟩
    · rw [runState, hrun]
      exact Run.state_of_ended hphase
    · rw [hends, hphase]
      rfl
  | false =>
    have hphase : ∀ cancelled, run.phase ≠ .ended cancelled := by
      intro cancelled hphase
      have hyes := (hasEnded_iff hrun).mpr ⟨cancelled, hphase⟩
      rw [hended] at hyes
      cases hyes
    refine .inl ⟨rfl, ?_, ?_⟩
    · rw [runState, hrun]
      simp only [Run.state]
      split
      · rfl
      · rfl
      · rename_i hfinished
        exact absurd hfinished (hphase false)
      · rename_i hcancelled
        exact absurd hcancelled (hphase true)
    · rw [hends, Phase.ends]
      exact hphase

/-! ### Questions -/

/-- The server after somebody who holds on to a run has asked to be told when it has ended. If it
has, the answer is given at once. -/
def ask (s : Server) (ticket : Ticket) (id : RunId) : Server :=
  if s.hasEnded id then s.answer ticket (.ended (s.runState id)) else s.await (.finishing ticket id)

/-- A run that has not ended is the current one of its timeline, so it could be asked for by file. -/
theorem Reachable.ask_changes (h : s.Reachable) (ticket : Ticket) (hid : id < s.runs.length) :
  Changes s (s.ask ticket id)
  := by
  have hrun := List.getElem?_eq_getElem hid
  generalize s.runs[id] = run at hrun
  rw [ask]
  split
  · exact answer_changes s ticket rfl
  · rename_i hended
    obtain ⟨current, hcurrent, -, honly⟩ := h.kept.current_of_run id run hrun
    have hrunning : run.isRunning := by
      simpa [hasEnded, hrun] using hended
    rw [← honly hrunning] at hcurrent
    exact .single (.serve (.finishing ticket hcurrent))

/-- `s.Informs asked answered`: of those who have asked, some are waiting and the others have been
answered, each of them once, and have been told the state of their run, which has ended. -/
structure Informs (s : Server) (asked answered : List (Ticket × RunId)) : Prop where
  asked : asked.Perm (s.waiting ++ answered)
  told : s.finals = answered.map fun a => (a.1, s.runState a.2)
  ended : ∀ a ∈ answered, s.hasEnded a.2

namespace Informs

variable {asked answered : List (Ticket × RunId)}

/-- What has been told stays true. -/
theorem told_of_changes (h : s.Informs asked answered) (hs : s.Reachable)
    (hchanges : Changes s t) :
  s.finals = (answered.map fun a => (a.1, t.runState a.2)) ∧
  ∀ a ∈ answered, t.hasEnded a.2
  := by
  constructor
  · rw [h.told]
    apply List.map_congr_left
    intro a ha
    rw [(hs.final_of_changes hchanges (h.ended a ha)).2.1]
  · intro a ha
    exact (hs.final_of_changes hchanges (h.ended a ha)).1

/-- Some ask, and nobody is told anything. -/
theorem asks (h : s.Informs asked answered) (hs : s.Reachable) (hchanges : Changes s t)
    {now : List (Ticket × RunId)} (hinquiries : t.inquiries = (s.waiting ++ now, s.finals)) :
  t.Informs (asked ++ now) answered
  := by
  obtain ⟨hwaiting, hfinals⟩ := Prod.mk.inj hinquiries
  obtain ⟨htold, hended⟩ := h.told_of_changes hs hchanges
  refine ⟨?_, hfinals.trans htold, hended⟩
  rw [hwaiting, List.append_assoc]
  apply (h.asked.append_right now).trans
  rw [List.append_assoc]
  exact List.perm_append_comm.append_left s.waiting

/-- Nobody asks, and those are told who can be told. -/
theorem tells (h : s.Informs asked answered) (hs : s.Reachable) (hchanges : Changes s t)
    (htells : s.Tells t) :
  ∃ answered', t.Informs asked answered'
  := by
  cases htells with
  | nobody hinquiries =>
    use answered
    have hnobody : t.inquiries = (s.waiting ++ [], s.finals) := by
      rw [List.append_nil]
      exact hinquiries
    have hasks := h.asks hs hchanges hnobody
    rwa [List.append_nil] at hasks
  | @somebody ticket id hended hwaiting hfinals =>
    use answered ++ [(ticket, id)]
    obtain ⟨htold, hall⟩ := h.told_of_changes hs hchanges
    obtain ⟨hended', hstate, -⟩ := hs.final_of_changes hchanges hended
    constructor
    · apply (h.asked.trans (hwaiting.append_right answered)).trans
      rw [List.cons_append, ← List.append_assoc]
      exact (List.perm_append_singleton (ticket, id) (t.waiting ++ answered)).symm
    · rw [hfinals, htold, List.map_append, ← hstate]
      rfl
    · intro a ha
      rcases List.mem_append.mp ha with ha | ha
      · exact hall a ha
      · obtain rfl := List.mem_singleton.mp ha
        exact hended'

/-- Somebody who holds on to a run asks. -/
theorem ask (h : s.Informs asked answered) (hs : s.Reachable) (ticket : Ticket)
    (hid : id < s.runs.length) :
  ∃ answered', (s.ask ticket id).Informs (asked ++ [(ticket, id)]) answered'
  := by
  have hchanges := hs.ask_changes ticket hid
  cases hended : s.hasEnded id with
  | false =>
    use answered
    apply h.asks hs hchanges
    simp [Server.ask, hended, inquiries, waiting, await, Pending.inquiry?, finals]
  | true =>
    use answered ++ [(ticket, id)]
    obtain ⟨htold, hall⟩ := h.told_of_changes hs hchanges
    obtain ⟨hended', hstate, -⟩ := hs.final_of_changes hchanges hended
    have hask : s.ask ticket id = s.answer ticket (.ended (s.runState id)) := by
      rw [Server.ask, if_pos hended]
    have hfinals : (s.ask ticket id).finals = s.finals ++ [(ticket, s.runState id)] := by
      rw [hask]
      simp [answer, record, finals, Fact.final?]
    have hwaiting : (s.ask ticket id).waiting = s.waiting := by
      rw [hask]
      rfl
    constructor
    · rw [hwaiting, ← List.append_assoc]
      exact h.asked.append_right _
    · rw [hfinals, htold, List.map_append, ← hstate]
      rfl
    · intro a ha
      rcases List.mem_append.mp ha with ha | ha
      · exact hall a ha
      · obtain rfl := List.mem_singleton.mp ha
        exact hended'

end Informs

/-! ### Where nothing can move -/

/-- Where nothing can move nobody waits for a run that has ended. -/
theorem hasEnded_of_waiting (hmoves : s.moves = []) {a : Ticket × RunId} (ha : a ∈ s.waiting) :
  s.hasEnded a.2 = false
  := by
  obtain ⟨p, hp, hinquiry⟩ := List.mem_filterMap.mp ha
  obtain ⟨i, hi⟩ := List.mem_iff_getElem?.mp hp
  have hserve : s.canServe i = false := by
    have hnone := (List.append_eq_nil_iff.mp hmoves).1
    rw [List.map_eq_nil_iff, List.filter_eq_nil_iff] at hnone
    have hlt := (List.getElem?_eq_some_iff.mp hi).1
    simpa using hnone i (List.mem_range.mpr hlt)
  rw [canServe, hi] at hserve
  cases p with
  | finishing ticket id =>
    obtain rfl := Option.some.inj hinquiry
    exact hserve
  | stopping ticket asker id => cases hinquiry
  | stoppingAll ticket current rest count => cases hinquiry

/-- Where nothing can move those have been told whose runs have ended. -/
theorem Informs.finals_perm {asked answered : List (Ticket × RunId)}
    (h : s.Informs asked answered) (hmoves : s.moves = []) :
  s.finals.Perm ((asked.filter fun a => s.hasEnded a.2).map fun a => (a.1, s.runState a.2))
  := by
  have hwaiting : s.waiting.filter (fun a => s.hasEnded a.2) = [] := by
    apply List.filter_eq_nil_iff.mpr
    intro a ha
    simp [hasEnded_of_waiting hmoves ha]
  have hanswered : answered.filter (fun a => s.hasEnded a.2) = answered :=
    List.filter_eq_self.mpr h.ended
  have hasked := h.asked.filter fun a => s.hasEnded a.2
  rw [List.filter_append, hwaiting, hanswered, List.nil_append] at hasked
  rw [h.told]
  exact (hasked.map _).symm

/-- Who asks rouses nobody. -/
theorem moves_ask (hmoves : s.moves = []) (ticket : Ticket) (id : RunId) :
  (s.ask ticket id).moves = []
  := by
  rw [ask]
  split
  · exact hmoves
  · rename_i hended
    obtain ⟨hserve, hwork⟩ := List.append_eq_nil_iff.mp hmoves
    apply List.append_eq_nil_iff.mpr
    refine ⟨?_, hwork⟩
    simp only [List.map_eq_nil_iff, List.filter_eq_nil_iff, List.mem_range] at hserve ⊢
    intro i hi
    simp only [await, List.length_append, List.length_singleton] at hi
    by_cases hlast : i = s.pending.length
    · subst hlast
      simpa [canServe, await, isDue, hasEnded] using hended
    · have hbefore : i < s.pending.length := by omega
      have hcan := hserve i hbefore
      simp only [canServe, await, List.getElem?_append_left hbefore] at hcan ⊢
      cases hp : s.pending[i]? with
      | none => simp
      | some p =>
        rw [hp] at hcan
        cases p with
        | stoppingAll ticket current rest count => cases current <;> exact hcan
        | stopping ticket asker id => exact hcan
        | finishing ticket id => exact hcan

/-- Between two moments where nothing can move those are told who had asked before and whose runs end
in between, and those who ask in between and whose runs have ended. -/
theorem Informs.told_perm {asked answered now answered' : List (Ticket × RunId)}
    (h : s.Informs asked answered) (h' : t.Informs (asked ++ now) answered') (hs : s.Reachable)
    (hchanges : Changes s t) (hmoves : s.moves = []) (hmoves' : t.moves = [])
    {told : List (Ticket × RunState)} (htold : t.finals = s.finals ++ told) :
  told.Perm (((asked.filter fun a => !s.hasEnded a.2 && t.hasEnded a.2)
    ++ now.filter fun a => t.hasEnded a.2).map fun a => (a.1, t.runState a.2))
  := by
  have hbefore := h.finals_perm hmoves
  have hafter := h'.finals_perm hmoves'
  have hstates : ((asked.filter fun a => s.hasEnded a.2).map fun a => (a.1, s.runState a.2))
      = (asked.filter fun a => s.hasEnded a.2).map fun a => (a.1, t.runState a.2) := by
    apply List.map_congr_left
    intro a ha
    rw [(hs.final_of_changes hchanges (List.mem_filter.mp ha).2).2.1]
  -- Who has asked before and is told by now was told before, or is told in between.
  have hsplit : (asked.filter fun a => t.hasEnded a.2).Perm
      ((asked.filter fun a => s.hasEnded a.2)
        ++ asked.filter fun a => !s.hasEnded a.2 && t.hasEnded a.2) := by
    have hboth := List.filter_append_perm (fun a : Ticket × RunId => s.hasEnded a.2)
      (asked.filter fun a => t.hasEnded a.2)
    simp only [List.filter_filter] at hboth
    have hstays : (asked.filter fun a => s.hasEnded a.2 && t.hasEnded a.2)
        = asked.filter fun a => s.hasEnded a.2 := by
      apply List.filter_congr
      intro a ha
      cases hended : s.hasEnded a.2 with
      | false => rfl
      | true => rw [(hs.final_of_changes hchanges hended).1, Bool.and_self]
    rw [hstays] at hboth
    exact hboth.symm
  rw [htold, List.filter_append, List.map_append] at hafter
  have hall := hafter.trans ((hsplit.map _).append_right _)
  rw [List.map_append, ← hstates, List.append_assoc, ← List.map_append] at hall
  exact (List.perm_append_left_iff s.finals).mp (hall.trans (hbefore.symm.append_right _))

end Server

/-! ### Attended sessions -/

/-- Who is told of the end of a run in a step, and which state. -/
def Report.finals (report : Report) : List (Ticket × RunState) :=
  report.answers.filterMap fun a => (Fact.answered a.1 a.2).final?

namespace Session

/-- Who asks for the end of a run by what happens, and of which run. -/
def asking (session : Session) : Happening → List (Ticket × RunId)
  | .perform index (.finished file) =>
    (((Path.key? file).bind session.server.currentRun?).map fun id => (⟨index, file⟩, id)).toList
  | _ => []

/-- `session.Attended asked`: the session comes about from a new one by any happenings in any order,
and by questions of those who hold on to runs. These have asked by then, and about which runs. -/
inductive Attended : Session → List (Ticket × RunId) → Prop
  | new (files : Files) (settings : Settings) (commands : List Command)
      (awaiting : List Awaiting) :
      Attended { files, server := { settings, commands, awaiting } } []
  | happen {session : Session} {asked : List (Ticket × RunId)} (h : Attended session asked)
      (x : Happening) :
      Attended (session.happen x) (asked ++ session.asking x)
  | ask {session : Session} {asked : List (Ticket × RunId)} (h : Attended session asked)
      (ticket : Ticket) {id : RunId} (hid : id < session.server.runs.length) :
      Attended (session.withServer (session.server.ask ticket id)) (asked ++ [(ticket, id)])

/-- A step leaves who waits, and who was told, as it is, unless it asks for the end of a run. -/
theorem inquiries_perform (session : Session) (index : Nat) (step : Step) :
  (session.perform index step).1.server.inquiries
    = (session.server.waiting ++ session.asking (.perform index step), session.server.finals)
  := by
  have hquiet : ∀ {server : Server}, server.inquiries = session.server.inquiries →
      server.inquiries = (session.server.waiting ++ [], session.server.finals) := by
    intro server h
    rw [List.append_nil]
    exact h
  cases step with
  | start file args => exact hquiet (session.server.inquiries_start session.files file args)
  | startTwice file args =>
    apply hquiet
    rw [perform, startTwice]
    simp only
    split
    · rfl
    · exact (Server.inquiries_commit _ _).trans (Server.inquiries_commit _ _)
  | stop file => exact hquiet (session.server.inquiries_stop ⟨index, file⟩ .program file)
  | stopAll =>
    exact hquiet (session.server.inquiries_stopEach ⟨index, ""⟩ session.server.currentRuns)
  | finished file =>
    simp only [perform, asking, Server.awaitEnd?]
    cases (Path.key? file).bind session.server.currentRun? with
    | none => exact hquiet rfl
    | some id =>
      simp [Server.inquiries, Server.waiting, Server.await, Server.finals, withServer,
        Pending.inquiry?]
  | execute actor args =>
    exact hquiet (session.server.inquiries_execute ⟨index, ""⟩ session.files actor args)
  | call name invocation =>
    exact hquiet (Server.inquiries_callEach invocation
      (Command.allNamed session.server.commands name) session.server)
  | respond key invocation =>
    apply hquiet
    simp only [perform]
    split
    · rfl
    · rename_i server outcome hrespond
      exact session.server.inquiries_respond? hrespond
  | _ => exact hquiet rfl

namespace Attended

variable {session : Session} {asked : List (Ticket × RunId)}

theorem reachable (h : Attended session asked) :
  session.server.Reachable
  := by
  induction h with
  | new files settings commands awaiting => exact .new settings commands awaiting
  | happen _ x ih => exact ih.changes (happen_changes _ x)
  | ask _ ticket hid ih => exact ih.changes (ih.ask_changes ticket hid)

/-- However an attended session comes about, all who have asked are informed. -/
theorem informs (h : Attended session asked) :
  ∃ answered, session.server.Informs asked answered
  := by
  induction h with
  | new files settings commands awaiting => exact ⟨[], .nil, rfl, by simp⟩
  | ask h ticket hid ih =>
    obtain ⟨answered, hinforms⟩ := ih
    exact hinforms.ask h.reachable ticket hid
  | @happen session asked h x ih =>
    obtain ⟨answered, hinforms⟩ := ih
    have hchanges := session.happen_changes x
    -- Only a step can ask, and only a request that goes on can tell.
    have hquiet : session.asking x = [] →
        (session.happen x).server.inquiries = session.server.inquiries →
        ∃ answered, (session.happen x).server.Informs (asked ++ session.asking x) answered := by
      intro hasking hinquiries
      rw [hasking, List.append_nil]
      exact hinforms.tells h.reachable hchanges (.nobody hinquiries)
    cases x with
    | perform index step =>
      exact ⟨answered, hinforms.asks h.reachable hchanges (session.inquiries_perform index step)⟩
    | commit o => exact hquiet rfl (session.server.inquiries_commit o)
    | commitFor ticket file o => exact hquiet rfl (session.server.inquiries_commit o)
    | stopEach ticket ids => exact hquiet rfl (session.server.inquiries_stopEach ticket ids)
    | pass milliseconds => exact hquiet rfl rfl
    | move move =>
      have hnobody : session.asking (.move move) = [] := rfl
      rw [hnobody, List.append_nil]
      exact hinforms.tells h.reachable hchanges (session.server.tells_step move)

/-! ### Steps of a script -/

theorem move (h : Attended session asked) (move : Server.Move) :
  Attended (session.withServer (session.server.step move)) asked
  := by
  have hmoved := h.happen (.move move)
  have hnobody : session.asking (.move move) = [] := rfl
  rwa [hnobody, List.append_nil] at hmoved

theorem settle (h : Attended session asked) :
  Attended (session.withServer session.server.settle) asked
  := by
  apply Server.settle_induction _ (P := fun s => Attended (session.withServer s) asked) _ h
  intro s m hs
  exact hs.move m

theorem setClock (h : Attended session asked) {time : Nat} (htime : session.server.clock ≤ time) :
  Attended (session.withServer (session.server.setClock time)) asked
  := by
  have hpass := h.happen (.pass (time - session.server.clock))
  have hnobody : session.asking (.pass (time - session.server.clock)) = [] := rfl
  rwa [hnobody, List.append_nil, Session.happen, Nat.add_sub_cancel' htime] at hpass

/-- A session is attended after a step and everything that follows from it, and nothing can move. -/
theorem after (h : Attended session asked) (index : Nat) (step : Step) :
  Attended (session.after index step) (asked ++ session.asking (.perform index step)) ∧
  Server.Changes session.server (session.after index step).server ∧
  (session.after index step).server.moves = []
  := by
  have hperformed := h.happen (.perform index step)
  have hsettled := hperformed.settle
  have hmoves := Server.moves_settle (session.perform index step).1.server
  refine ⟨?_, ?_, hsettled.reachable.moves_advance hmoves step.duration⟩
  · apply hsettled.reachable.advance_induction
      (P := fun s => Attended ((session.perform index step).1.withServer s) _) _ _ hmoves hsettled
    · intro s hs
      exact hs.settle
    · intro s time _ htime _ hs
      exact hs.setClock htime
  · apply ((session.perform_changes index step).trans (Server.settle_changes _)).trans
    exact hsettled.reachable.advance_changes hmoves step.duration

end Attended

/-- Who is told of the end of a run in a step is told in the report of the step. -/
theorem finals_after (session : Session) (index : Nat) (step : Step)
    (hsuffix : session.server.journal <:+ (session.after index step).server.journal) :
  ∃ told, (session.after index step).server.finals = session.server.finals ++ told ∧
    (session.report index step).finals.Perm told
  := by
  obtain ⟨later, hlater⟩ := hsuffix
  use later.reverse.filterMap (·.fact.final?)
  constructor
  · rw [Server.finals, Server.finals, ← hlater, List.filterMap_append, List.reverse_append,
      List.filterMap_reverse]
  · have hfinal : ∀ entry : Entry,
        (entry.answer?.bind fun a => (Fact.answered a.1 a.2).final?) = entry.fact.final? := by
      rintro ⟨time, fact⟩
      cases fact <;> rfl
    have hentries : since session.server.journal.length (session.after index step).server.journal
        = later.reverse := by
      rw [← hlater, since_append]
    simp only [Report.finals, report, hentries]
    apply ((sortBy_perm _ _).filterMap _).trans
    rw [List.filterMap_filterMap]
    simp only [hfinal]
    exact List.Perm.refl _

/-- Whoever holds on to a run learns how it ends. There is a run for everyone to hold on to who has
started it or asked for it by its file. A run is running until it publishes its end, and from then on
it is forever in the state that this event says. Everyone who asks for the end is told once, and is
told that state: in the step in which the end is published, or at once if it has been. And for every
stop that was granted there is a run whose end it has claimed, and which has published its end as
cancelled before. -/
theorem Attended.informsHolders {session : Session} {asked : List (Ticket × RunId)}
    (h : session.Attended asked) :
  let s := session.server
  (∀ {file : String} {t : Server} {id : RunId}, s.Addresses file t id → id < t.runs.length) ∧
  (∀ id < s.runs.length,
    (s.hasEnded id = false ∧ s.runState id = .running ∧ Entry.ends (s.historyOf id) = []) ∨
    ∃ cancelled, ∀ t, Server.Changes s t → t.hasEnded id ∧ t.runState id = .ofEnd cancelled ∧
      Entry.ends (t.historyOf id) = [cancelled]) ∧
  (∃ answered, s.Informs asked answered) ∧
  (s.moves = [] → ∀ (index : Nat) (step : Step),
    let t := (session.after index step).server
    let now := session.asking (.perform index step)
    (session.after index step).Attended (asked ++ now) ∧ t.moves = [] ∧ Server.Changes s t ∧
    (session.report index step).finals.Perm
      (((asked.filter fun a => !s.hasEnded a.2 && t.hasEnded a.2)
        ++ now.filter fun a => t.hasEnded a.2).map fun a => (a.1, t.runState a.2))) ∧
  (∀ (ticket : Ticket), ∀ id < s.runs.length,
    let t := s.ask ticket id
    (session.withServer t).Attended (asked ++ [(ticket, id)]) ∧ (s.moves = [] → t.moves = []) ∧
    t.finals = s.finals ++ if s.hasEnded id then [(ticket, s.runState id)] else []) ∧
  ∃ granted, Server.Granted s.history granted
  := by
  intro s
  have hs := h.reachable
  refine ⟨?_, ?_, h.informs, ?_, ?_, ?_⟩
  · intro file t id haddresses
    obtain ⟨key, -, hkey⟩ := haddresses.identifier hs
    obtain ⟨run, hrun, -⟩ := Option.map_eq_some_iff.mp hkey
    exact (List.getElem?_eq_some_iff.mp hrun).1
  · intro id hid
    apply (hs.state_cases hid).imp_right
    rintro ⟨cancelled, hended, hstate, hends⟩
    use cancelled
    intro t hchanges
    obtain ⟨hended', hstate', hhistory⟩ := hs.final_of_changes hchanges hended
    exact ⟨hended', hstate'.trans hstate, by rw [hhistory, hends]⟩
  · intro hmoves index step t now
    obtain ⟨hattended, hchanges, hmoves'⟩ := h.after index step
    obtain ⟨told, htold, hfinals⟩ := session.finals_after index step hchanges.journal_suffix
    obtain ⟨answered, hinforms⟩ := h.informs
    obtain ⟨answered', hinforms'⟩ := hattended.informs
    exact ⟨hattended, hmoves', hchanges,
      hfinals.trans (hinforms.told_perm hinforms' hs hchanges hmoves hmoves' htold)⟩
  · intro ticket id hid t
    refine ⟨h.ask ticket hid, fun hmoves => Server.moves_ask hmoves ticket id, ?_⟩
    cases hended : s.hasEnded id with
    | true => simp [t, Server.ask, hended, Server.answer, Server.record, Server.finals, Fact.final?]
    | false => simp [t, Server.ask, hended, Server.await, Server.finals]
  · obtain ⟨granted, hgrants⟩ := hs.grants
    exact ⟨granted, hgrants.history⟩

/-- A run is stopped while somebody waits for its end, and the timeline is started again. Whoever
still holds on to the first run is told that it was cancelled, while the second one is running. -/
theorem Attended.informsHolders_of_restart :
  let new : Session := { files := .ofList [("timelines/show", .file (.text "#wait 5"))] }
  let started := new.after 0 (.start "show" [])
  let asked := started.withServer (started.server.ask ⟨none, "first"⟩ 0)
  let stopped := asked.after 1 (.stop "show")
  let restarted := stopped.after 2 (.start "show" [])
  let again := restarted.withServer (restarted.server.ask ⟨none, "again"⟩ 0)
  again.Attended [(⟨none, "first"⟩, 0), (⟨none, "again"⟩, 0)] ∧
  (∃ answered, again.server.Informs [(⟨none, "first"⟩, 0), (⟨none, "again"⟩, 0)] answered) ∧
  again.server.finals = [(⟨none, "first"⟩, .cancelled), (⟨none, "again"⟩, .cancelled)] ∧
  again.server.runState 1 = .running
  := by
  intro new started asked stopped restarted again
  have hnew : new.Attended [] := .new _ _ _ _
  have hstarted := (hnew.after 0 (.start "show" [])).1
  have hasked : asked.Attended [(⟨none, "first"⟩, 0)] :=
    hstarted.ask ⟨none, "first"⟩ (by decide +kernel)
  have hrestarted := ((hasked.after 1 (.stop "show")).1.after 2 (.start "show" [])).1
  have hagain : again.Attended [(⟨none, "first"⟩, 0), (⟨none, "again"⟩, 0)] :=
    hrestarted.ask ⟨none, "again"⟩ (by decide +kernel)
  obtain ⟨-, -, hinforms, -⟩ := hagain.informsHolders
  refine ⟨hagain, hinforms, ?_, ?_⟩
  · decide +kernel
  · decide +kernel

end Session

end CommandTimelines
