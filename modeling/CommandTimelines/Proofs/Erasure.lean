import CommandTimelines.Proofs.Agreement
import CommandTimelines.Proofs.Starting

/-!
# Starts that fail

A start that fails leaves no trace but its own answer, some notes, and a timeline that is known
without having been started. So a step whose start fails can be struck out of a script: the
session that has it and the one that lacks it *agree* (`Session.Agree`) from then on, and what
comes of all other steps is the same (`Session.erases`), whatever these steps are.
-/

namespace CommandTimelines

open Host Script Operator Text

/-! ### Reports that agree -/

/-- The results of a step agree in two servers, the first of which is `s`: they are the same, or
the first one shows a timeline that was never started, as idle and with no action begun, and the
second one shows that there is no such timeline. -/
inductive Result.Agree (s : Server) : Step → Result → Result → Prop
  | same (step : Step) (result : Result) : Agree s step result result
  | unstarted {file key : String} (hkey : Path.key? file = some key)
      (hstarts : s.starts key = 0) :
      Agree s (.state file) (.state (some ⟨.idle, 0, Option.none⟩)) (.state Option.none)

/-- The reports of a step agree: they are the same but for the numbers of steps, which `ρ`
translates, and for a timeline that was never started. -/
structure Report.Agree (ρ : Nat → Nat) (s : Server) (step : Step) (report report' : Report) :
    Prop where
  result : Result.Agree s step report.result report'.result
  time : report.time = report'.time
  calls : report.calls = report'.calls
  events : report.events = report'.events
  answers : report.answers = report'.answers.map fun (ticket, reply) => (ticket.renumber ρ, reply)
  notes : report.notes = report'.notes

/-- A happening of a step that has another number. -/
def Happening.renumber (ρ : Nat → Nat) : Happening → Happening
  | .perform index step => .perform (ρ index) step
  | .commitFor ticket file opening => .commitFor (ticket.renumber ρ) file opening
  | .stopEach ticket ids => .stopEach (ticket.renumber ρ) ids
  | x => x

@[simp]
theorem Happening.renumber_id (x : Happening) :
  x.renumber id = x
  := by
  cases x <;> simp [renumber]

/-! ### What a failed start leaves -/

/-- A fact that is of no account to anyone but the holder of a ticket: a note, or the answer. -/
inductive Fact.IsAside (ticket : Ticket) : Fact → Prop
  | noted (note : Note) : IsAside ticket (.noted note)
  | answered (reply : Reply) : IsAside ticket (.answered ticket reply)

/-- Facts of no account are no calls and no events, and the answers are the holder's. -/
theorem Fact.IsAside.entries {ticket : Ticket} {facts : List Fact}
    (h : ∀ fact ∈ facts, fact.IsAside ticket) (time : Nat) :
  (facts.map (Entry.mk time)).filterMap (·.call?) = [] ∧
  (facts.map (Entry.mk time)).filterMap (·.event?) = [] ∧
  ∀ answer ∈ (facts.map (Entry.mk time)).filterMap (·.answer?), answer.1 = ticket
  := by
  simp only [List.filterMap_eq_nil_iff, List.mem_filterMap, List.forall_mem_map]
  refine ⟨?_, ?_, ?_⟩
  · intro fact hfact
    cases h fact hfact <;> rfl
  · intro fact hfact
    cases h fact hfact <;> rfl
  · rintro answer ⟨entry, hentry, hanswer⟩
    obtain ⟨fact, hfact, rfl⟩ := List.mem_map.mp hentry
    cases h fact hfact with
    | noted note => cases hanswer
    | answered reply =>
      cases hanswer
      rfl

namespace Server

variable {ρ : Nat → Nat} {s : Server}

/-- A start that fails leaves nothing but notes and a timeline without a run. -/
theorem agree_of_start_error (hpending : s.pending = s.pending.map (·.renumber ρ))
    {files : Files} {file : String} {args : List String} {error : TimelineError}
    (h : (s.start files file args).2 = .error error) :
  ∃ notes : List Note,
    (s.start files file args).1.journal = s.journalWith (notes.map .noted) ∧
    (s.start files file args).1.Agree ρ (s.start files file args).1.journal s.journal s
  := by
  have hself := Agree.self hpending
  rw [start] at h ⊢
  split at h
  · exact ⟨[], rfl, hself⟩
  · rename_i o hread
    have hcommitted := s.committed o
    rw [h] at hcommitted
    generalize (s.commit o).1 = s' at hcommitted
    cases hcommitted with
    | active hactive => exact ⟨[], rfl, hself⟩
    | declined notes hidle hfault =>
      have hknown : ∀ key, (s.timeline? key).isSome → ((s.enroll o.key).timeline? key).isSome := by
        intro key hkey
        apply (isSome_timeline?_enroll s o.key key).mpr (.inl hkey)
      have htimelineOf := timelineOf_enroll s o.key
      obtain ⟨timelines, heq⟩ := enroll_eq s o.key
      rw [heq] at hknown htimelineOf ⊢
      exact ⟨notes, rfl,
        { hself with timelineOf := htimelineOf, known := hknown, journal := ⟨[], rfl, rfl⟩ }⟩

end Server

namespace Session

/-- A run that was started has the same name in servers that agree. -/
theorem startResult_eq {ρ : Nat → Nat} {base base' : List Entry} {s t : Server}
    (h : s.Agree ρ base base' t) (result : Except TimelineError RunId) :
  startResult s result = startResult t result
  := by
  have hrunName : s.runName = t.runName := funext h.runName
  rw [startResult, hrunName, startResult]

/-- The entries of a journal since it was another one are those that were added. -/
theorem since_append (later journal : List Entry) :
  since journal.length (later ++ journal) = later.reverse
  := by
  simp [since]

/-- The order of answers does not depend on the numbers of steps, as long as these come in the
same order. -/
theorem inOrder_renumber {ρ : Nat → Nat} (hρ : StrictMono ρ) (answers : List (Ticket × Reply)) :
  inOrder (answers.map fun (ticket, reply) => (ticket.renumber ρ, reply))
    = (inOrder answers).map fun (ticket, reply) => (ticket.renumber ρ, reply)
  := by
  apply sortBy_map
  intro a b
  apply Ticket.isBefore_renumber hρ

/-! ### Sessions that agree -/

/-- Sessions that have the same files and whose servers agree. -/
structure Agree (ρ : Nat → Nat) (base base' : List Entry) (session session' : Session) :
    Prop where
  reachable : session.Reachable
  reachable' : session'.Reachable
  files : session.files = session'.files
  server : session.server.Agree ρ base base' session'.server

namespace Agree

variable {ρ : Nat → Nat} {base base' : List Entry} {session session' : Session}
  (h : Agree ρ base base' session session')

include h

/-- A timeline is shown alike, unless it was never started. -/
theorem view? (file : String) :
  Result.Agree session.server (.state file) (.state (session.view? file))
    (.state (session'.view? file))
  := by
  rw [Session.view?, Session.view?]
  cases hkey : Path.key? file with
  | none => exact .same _ _
  | some key =>
    have htimeline := h.server.timelineOf key
    have hknown := h.server.known key
    rw [Server.timelineOf, Server.timelineOf] at htimeline
    simp only [Option.bind_some]
    cases hright : session'.server.timeline? key with
    | some t =>
      obtain ⟨t', hleft⟩ := Option.isSome_iff_exists.mp (hknown (by rw [hright]; rfl))
      obtain rfl : t' = t := by simpa [hleft, hright] using htimeline
      have hstate : session.server.stateOf t' = session'.server.stateOf t' := by
        rw [Server.stateOf, Server.stateOf]
        simp only [h.server.runState]
      simp only [hleft, Option.map_some, hstate, h.server.runName, h.server.runState]
      exact .same _ _
    | none =>
      cases hleft : session.server.timeline? key with
      | none => exact .same _ _
      | some t =>
        obtain rfl : t = { key } := by simpa [hleft, hright] using htimeline
        refine .unstarted hkey ?_
        -- A timeline that had a run would remember one.
        rw [h.reachable.server.starts_eq_runsOf, Server.runsOf, List.countP_eq_zero]
        intro script hscript
        obtain ⟨run, hrun, rfl⟩ := List.mem_map.mp hscript
        obtain ⟨id, hid, rfl⟩ := List.mem_iff_getElem.mp hrun
        obtain ⟨current, hcurrent, -⟩ := h.reachable.server.kept.current_of_run id _
          (List.getElem?_eq_getElem hid)
        intro hrunKey
        obtain rfl : session.server.runs[id].key = key := by simpa [Run.script] using hrunKey
        simp [Server.currentRun?, hleft] at hcurrent

/-- A step does the same to sessions that agree. -/
theorem perform {index index' : Nat} (hindex : ρ index' = index) (step : Step) :
  Agree ρ base base' (session.perform index step).1 (session'.perform index' step).1 ∧
  Result.Agree session.server step (session.perform index step).2 (session'.perform index' step).2
  := by
  subst hindex
  have hserver := h.server
  have hkept := h.reachable.server.kept
  have hkept' := h.reachable'.server.kept
  suffices (session.perform (ρ index') step).1.files = (session'.perform index' step).1.files ∧
      (session.perform (ρ index') step).1.server.Agree ρ base base'
        (session'.perform index' step).1.server ∧
      Result.Agree session.server step (session.perform (ρ index') step).2
        (session'.perform index' step).2 by
    obtain ⟨hfiles, hservers, hresult⟩ := this
    exact ⟨⟨h.reachable.happen (.perform _ step), h.reachable'.happen (.perform _ step), hfiles,
      hservers⟩, hresult⟩
  cases step with
  | start file args =>
    obtain ⟨hstarted, hresult⟩ := hserver.start session'.files file args
    simp only [Session.perform, h.files, hresult, startResult_eq hstarted]
    exact ⟨h.files, hstarted, .same _ _⟩
  | startTwice file args =>
    simp only [Session.perform, Session.startTwice, h.files, hserver.settings]
    split
    · exact ⟨h.files, hserver, .same _ _⟩
    · rename_i o hread
      obtain ⟨hfirst, hresult⟩ := hserver.commit o
      obtain ⟨hsecond, hresult'⟩ := hfirst.commit o
      simp only [hresult, hresult', startResult_eq hsecond]
      exact ⟨h.files, hsecond, .same _ _⟩
  | stop file => exact ⟨h.files, hserver.stop ⟨index', file⟩ .program file, .same _ _⟩
  | stopAll => exact ⟨h.files, hserver.stopAll ⟨index', ""⟩, .same _ _⟩
  | finished file =>
    have hawait : Option.Rel (Server.Agree ρ base base')
        (session.server.awaitEnd? ⟨ρ index', file⟩ file)
        (session'.server.awaitEnd? ⟨index', file⟩ file) :=
      hserver.awaitEnd? ⟨index', file⟩ file
    simp only [Session.perform]
    generalize session.server.awaitEnd? _ file = a at hawait
    generalize session'.server.awaitEnd? _ file = b at hawait
    cases hawait with
    | none => exact ⟨h.files, hserver, .same _ _⟩
    | some hawaits => exact ⟨h.files, hawaits, .same _ _⟩
  | execute actor args =>
    have hexecuted := hserver.execute hkept hkept' ⟨index', ""⟩ session'.files actor args
    simp only [Session.perform, h.files]
    exact ⟨h.files, hexecuted, .same _ _⟩
  | running =>
    simp only [Session.perform, hserver.running hkept hkept']
    exact ⟨h.files, hserver, .same _ _⟩
  | state file => exact ⟨h.files, hserver, h.view? file⟩
  | advance milliseconds => exact ⟨h.files, hserver, .same _ _⟩
  | write path node =>
    simp only [Session.perform, h.files, true_and]
    exact ⟨hserver, .same _ _⟩
  | remove path =>
    simp only [Session.perform, h.files, true_and]
    exact ⟨hserver, .same _ _⟩
  | register command => exact ⟨h.files, hserver.register command, .same _ _⟩
  | await response => exact ⟨h.files, hserver.expect response, .same _ _⟩
  | awaited keys =>
    simp only [Session.perform, hserver.awaiting]
    exact ⟨h.files, hserver, .same _ _⟩
  | find name names =>
    simp only [Session.perform, hserver.commands]
    exact ⟨h.files, hserver, .same _ _⟩
  | commands =>
    simp only [Session.perform, hserver.commands]
    exact ⟨h.files, hserver, .same _ _⟩
  | call name invocation =>
    obtain ⟨hcalled, houtcomes⟩ :=
      hserver.callEach invocation (Command.allNamed session'.server.commands name)
    simp only [Session.perform, hserver.commands, houtcomes]
    exact ⟨h.files, hcalled, .same _ _⟩
  | respond key invocation =>
    have hrespond := hserver.respond? none key invocation
    simp only [Session.perform]
    generalize session.server.respond? none key invocation = a at hrespond
    generalize session'.server.respond? none key invocation = b at hrespond
    cases hrespond with
    | none => exact ⟨h.files, hserver, .same _ _⟩
    | @some a b hresponded =>
      obtain ⟨hcalled, houtcome⟩ := hresponded
      simp only [houtcome]
      exact ⟨h.files, hcalled, .same _ _⟩

/-- Whatever happens, sessions that agree go on agreeing. -/
theorem happen (x : Happening) :
  Agree ρ base base' (session.happen (x.renumber ρ)) (session'.happen x)
  := by
  cases x with
  | perform index step => exact (h.perform rfl step).1
  | commit o =>
    exact ⟨h.reachable.happen (.commit o), h.reachable'.happen (.commit o), h.files,
      (h.server.commit o).1⟩
  | commitFor ticket file o =>
    obtain ⟨hcommitted, hresult⟩ := h.server.commit o
    refine ⟨h.reachable.happen (.commitFor _ file o), h.reachable'.happen (.commitFor _ file o),
      h.files, ?_⟩
    simp only [Happening.renumber, Session.happen, hresult]
    apply hcommitted.record (.answered ticket _)
  | stopEach ticket ids =>
    exact ⟨h.reachable.happen (.stopEach _ ids), h.reachable'.happen (.stopEach _ ids), h.files,
      h.server.stopEach ticket ids⟩
  | move move =>
    exact ⟨h.reachable.happen (.move move), h.reachable'.happen (.move move), h.files,
      h.server.step h.reachable'.server move⟩
  | pass milliseconds =>
    refine ⟨h.reachable.happen (.pass _), h.reachable'.happen (.pass _), h.files, ?_⟩
    simp only [Happening.renumber, Session.happen, h.server.clock]
    apply h.server.setClock

omit h in
theorem happens (xs : List Happening) :
  ∀ {session session' : Session}, Agree ρ base base' session session' →
    Agree ρ base base' ((xs.map (·.renumber ρ)).foldl Session.happen session)
      (xs.foldl Session.happen session')
  := by
  induction xs with
  | nil =>
    intro session session' h
    exact h
  | cons x rest ih =>
    intro session session' h
    apply ih (h.happen x)

/-! ### Scripts -/

theorem settle :
  Agree ρ base base' (session.withServer session.server.settle)
    (session'.withServer session'.server.settle)
  where
  reachable := h.reachable.settle
  reachable' := h.reachable'.settle
  files := h.files
  server := h.server.settle h.reachable'.server

theorem advance (hmoves : session'.server.moves = []) (milliseconds : Nat) :
  Agree ρ base base' (session.withServer (session.server.advance milliseconds))
    (session'.withServer (session'.server.advance milliseconds))
  where
  reachable := h.reachable.advance (h.server.moves.trans hmoves) milliseconds
  reachable' := h.reachable'.advance hmoves milliseconds
  files := h.files
  server := h.server.advance h.reachable'.server hmoves milliseconds

theorem after {index index' : Nat} (hindex : ρ index' = index) (step : Step) :
  Agree ρ base base' (session.after index step) (session'.after index' step)
  := (h.perform hindex step).1.settle.advance (Server.moves_settle _) step.duration

omit h in
theorem runFrom (steps : List Step) :
  ∀ {session session' : Session} {index index' : Nat}, Agree ρ base base' session session' →
    (∀ i < steps.length, ρ (index' + i) = index + i) →
    Agree ρ base base' (session.runFrom index steps) (session'.runFrom index' steps)
  := by
  induction steps with
  | nil =>
    intro session session' index index' h hindex
    exact h
  | cons step rest ih =>
    intro session session' index index' h hindex
    apply ih (h.after (hindex 0 (Nat.zero_lt_succ _)) step)
    intro i hi
    have hnext := hindex (i + 1) (Nat.succ_lt_succ hi)
    rwa [← Nat.add_assoc, ← Nat.add_assoc, Nat.add_right_comm, Nat.add_right_comm index] at hnext

omit h in
/-- The steps of a script may get other numbers if they keep those that they have. -/
theorem run (files : Files) (settings : Settings) (commands : List Command)
    (awaiting : List Awaiting) (steps : List Step) (hρ : ∀ i < steps.length, ρ i = i) :
  let session := Session.run { files, server := { settings, commands, awaiting } } steps
  Agree ρ [] [] session session
  := by
  have hnew := Reachable.new files settings commands awaiting
  let server : Server := { settings, commands, awaiting }
  have hserver : server.Agree ρ server.journal server.journal server := .self rfl
  apply Agree.runFrom steps
  · exact ⟨hnew, hnew, rfl, hserver⟩
  · simpa using hρ

/-! ### Reports -/

/-- The reports of a step agree in sessions that agree. -/
theorem report (hρ : StrictMono ρ) {index index' : Nat} (hindex : ρ index' = index)
    (step : Step) :
  Report.Agree ρ session.server step (session.report index step) (session'.report index' step)
  := by
  have hrebased : Agree ρ session.server.journal session'.server.journal session session' :=
    { h with server := h.server.rebase }
  have hdone := (hrebased.after hindex step).server
  obtain ⟨later, hjournal, hjournal'⟩ := hdone.journal
  have hentries : since session.server.journal.length (session.after index step).server.journal
      = later.reverse.map (·.renumber ρ) := by
    rw [hjournal, since_append, List.map_reverse]
  have hentries' :
      since session'.server.journal.length (session'.after index' step).server.journal
        = later.reverse := by
    rw [hjournal', since_append]
  constructor
  case result => exact (h.perform hindex step).2
  case time => exact hdone.clock
  case answers =>
    simp only [Session.report, hentries, hentries', List.filterMap_map, ← inOrder_renumber hρ,
      Function.comp_def, Entry.answer?_renumber, List.map_filterMap]
  all_goals
    simp only [Session.report, hentries, hentries', List.filterMap_map, Function.comp_def,
      Entry.call?_renumber, Entry.event?_renumber, Entry.note?_renumber, received,
      h.server.settings]

end Agree

/-! ### Starts that fail -/

/-- The step starts a timeline, for the program or for an operator, and the start fails, or the
operator may not use the file. -/
inductive Fails (session : Session) : Step → Prop
  | start {file : String} {args : List String} {error : TimelineError}
      (h : (session.server.start session.files file args).2 = .error error) :
      Fails session (.start file args)
  | execute {actor : Actor} {words : List String} {file : String} {args : List String}
      {error : TimelineError} (hwords : Request.ofArgs words = .start file args)
      (hallowed : (Request.start file args).forbidden? actor = none)
      (h : (session.server.start session.files file args).2 = .error error) :
      Fails session (.execute actor words)
  | denied {actor : Actor} {words : List String} {file : String} {args : List String}
      (hwords : Request.ofArgs words = .start file args)
      (hdenied : (Request.start file args).forbidden? actor = some file) :
      Fails session (.execute actor words)

/-- A step that fails leaves nothing but notes, its own answer and a timeline without a run. -/
theorem Fails.perform {ρ : Nat → Nat} {session : Session} {step : Step} (h : session.Fails step)
    (hreachable : session.Reachable)
    (hpending : session.server.pending = session.server.pending.map (·.renumber ρ))
    (index : Nat) :
  (∃ facts : List Fact, (∀ fact ∈ facts, fact.IsAside ⟨index, ""⟩) ∧
    (session.perform index step).1.server.journal = session.server.journalWith facts) ∧
  Agree ρ (session.perform index step).1.server.journal session.server.journal
    (session.perform index step).1 session
  := by
  have hafter : (session.perform index step).1.Reachable :=
    hreachable.happen (.perform index step)
  cases h with
  | start h =>
    obtain ⟨notes, hjournal, hagree⟩ := Server.agree_of_start_error hpending h
    refine ⟨⟨notes.map .noted, ?_, hjournal⟩, hafter, hreachable, rfl, hagree⟩
    intro fact hfact
    obtain ⟨note, -, rfl⟩ := List.mem_map.mp hfact
    exact .noted note
  | @execute actor words file args error hwords hallowed h =>
    obtain ⟨notes, hjournal, hagree⟩ := Server.agree_of_start_error hpending h
    have hexecute : session.server.execute ⟨index, ""⟩ session.files actor words
        = (session.server.start session.files file args).1.answer ⟨index, ""⟩
          (.feedback (startFeedback file (some error))) := by
      rw [Server.execute, hwords]
      simp only [hallowed, Server.grant, h]
      rfl
    simp only [Session.perform, hexecute] at hafter ⊢
    refine ⟨⟨notes.map .noted
      ++ [.answered ⟨index, ""⟩ (.feedback (startFeedback file (some error)))], ?_, ?_⟩, hafter,
      hreachable, rfl, hagree.record_left _⟩
    · intro fact hfact
      rcases List.mem_append.mp hfact with hnoted | hanswered
      · obtain ⟨note, -, rfl⟩ := List.mem_map.mp hnoted
        exact .noted note
      · obtain rfl := List.mem_singleton.mp hanswered
        exact .answered _
    · simp [withServer, Server.answer, Server.record, Server.journalWith, hjournal, hagree.clock]
  | @denied actor words file args hwords hdenied =>
    have hexecute : session.server.execute ⟨index, ""⟩ session.files actor words
        = session.server.refuse ⟨index, ""⟩ actor file := by
      rw [Server.execute, hwords]
      simp only [hdenied]
    simp only [Session.perform, hexecute] at hafter ⊢
    refine ⟨⟨[.noted (.denied actor.name file), .answered ⟨index, ""⟩ (.feedback noAccess)], ?_,
      rfl⟩, hafter, hreachable, rfl, ((Server.Agree.self hpending).record_left _).record_left _⟩
    intro fact hfact
    simp only [List.mem_cons, List.not_mem_nil, or_false] at hfact
    rcases hfact with rfl | rfl
    · exact .noted _
    · exact .answered _

/-- Where nothing can move, nothing follows from a step that fails. -/
theorem Fails.after {ρ : Nat → Nat} {session : Session} {step : Step} (h : session.Fails step)
    (hreachable : session.Reachable) (hmoves : session.server.moves = [])
    (hpending : session.server.pending = session.server.pending.map (·.renumber ρ))
    (index : Nat) :
  session.after index step = (session.perform index step).1
  := by
  have hduration : step.duration = 0 := by
    cases h <;> rfl
  obtain ⟨-, hperformed⟩ := h.perform hreachable hpending index
  exact hreachable.after_eq_perform hduration (hperformed.server.moves.trans hmoves)

/-- A step that fails makes no call and publishes no event, and its only answer is its own. -/
theorem Fails.report {session : Session} {step : Step} (h : session.Fails step) {index : Nat}
    {facts : List Fact} (haside : ∀ fact ∈ facts, fact.IsAside ⟨index, ""⟩)
    (hjournal : (session.after index step).server.journal = session.server.journalWith facts) :
  (session.report index step).calls = [] ∧ (session.report index step).events = ⟨0, []⟩ ∧
  ∀ answer ∈ (session.report index step).answers, answer.1 = ⟨some index, ""⟩
  := by
  have hentries : since session.server.journal.length (session.after index step).server.journal
      = facts.map (Entry.mk session.server.clock) := by
    rw [hjournal, Server.journalWith, since_append, List.reverse_reverse]
  obtain ⟨hcalls, hevents, hanswers⟩ := Fact.IsAside.entries haside session.server.clock
  have hreceived : ∀ capacity, received capacity step (facts.map (Entry.mk session.server.clock))
      = ⟨0, []⟩ := by
    intro capacity
    cases h <;> simp [received, hevents, receive]
  simp only [Session.report, hentries]
  refine ⟨hcalls, hreceived _, ?_⟩
  intro answer hanswer
  apply hanswers answer ((sortBy_perm _ _).mem_iff.mp hanswer)

/-! ### Striking out a step -/

/-- The numbers that the steps of a script get if a step with the number `k` is put in. -/
def skip (k n : Nat) : Nat := if n < k then n else n + 1

theorem skip_strictMono (k : Nat) :
  StrictMono (skip k)
  := by
  intro m n hlt
  unfold skip
  split <;> split <;> omega

theorem skip_of_lt {k n : Nat} (h : n < k) :
  skip k n = n
  := if_pos h

theorem skip_add (k i : Nat) :
  skip k (k + i) = k + 1 + i
  := by
  rw [skip, if_neg (by omega)]
  omega

/-- The reports of steps agree one by one, the first of which has the number `index`. -/
inductive ReportsAgree (ρ : Nat → Nat) : Nat → Session → List Step → List Report → List Report →
    Prop
  | nil {index : Nat} {session : Session} : ReportsAgree ρ index session [] [] []
  | cons {index : Nat} {session : Session} {step : Step} {steps : List Step}
      {report report' : Report} {reports reports' : List Report}
      (hfirst : report.Agree ρ session.server step report')
      (hrest : ReportsAgree ρ (index + 1) (session.after index step) steps reports reports') :
      ReportsAgree ρ index session (step :: steps) (report :: reports) (report' :: reports')

theorem Agree.reportsFrom {ρ : Nat → Nat} (hρ : StrictMono ρ) {base base' : List Entry}
    (steps : List Step) :
  ∀ {session session' : Session} {index index' : Nat}, Agree ρ base base' session session' →
    (∀ i, ρ (index' + i) = index + i) →
    ReportsAgree ρ index session steps (session.reportsFrom index steps)
      (session'.reportsFrom index' steps)
  := by
  induction steps with
  | nil =>
    intro session session' index index' h hindex
    exact .nil
  | cons step rest ih =>
    intro session session' index index' h hindex
    apply ReportsAgree.cons (h.report hρ (hindex 0) step)
    apply ih (h.after (hindex 0) step)
    intro i
    have hnext := hindex (1 + i)
    rwa [← Nat.add_assoc, ← Nat.add_assoc] at hnext

/-- The reports of a script come after each other. -/
theorem reportsFrom_append (before after : List Step) (index : Nat) (session : Session) :
  session.reportsFrom index (before ++ after)
    = session.reportsFrom index before
      ++ (session.runFrom index before).reportsFrom (index + before.length) after
  := by
  induction before generalizing index session with
  | nil => rfl
  | cons step rest ih =>
    simp only [List.cons_append, Session.reportsFrom, Session.runFrom, ih, List.length_cons,
      Nat.add_assoc, Nat.add_comm 1]

/-- A step that fails makes no call and publishes no event, its only answer is its own, and it
leaves the runs, what is begun of every timeline, the awaited responses and the requests as they
were. If it is struck out of the script then the reports of the other steps stay the same, but for
the numbers of steps and for a timeline that was never started, which is then not known. The
same holds if what follows happens in any other order. -/
theorem erases (files : Files) (settings : Settings) (commands : List Command)
    (awaiting : List Awaiting) (before : List Step) {step : Step}
    (h : (run { files, server := { settings, commands, awaiting } } before).Fails step) :
  let new : Session := { files, server := { settings, commands, awaiting } }
  let k := before.length
  let session := new.run before
  let failed := session.after k step
  let report := session.report k step
  (report.calls = [] ∧ report.events = ⟨0, []⟩ ∧
    ∀ answer ∈ report.answers, answer.1 = ⟨some k, ""⟩) ∧
  (failed.files = session.files ∧ failed.server.runs = session.server.runs ∧
    failed.server.awaiting = session.server.awaiting ∧
    failed.server.pending = session.server.pending ∧
    failed.server.clock = session.server.clock ∧
    ∀ key, failed.server.timelineOf key = session.server.timelineOf key) ∧
  (∀ after : List Step, ∃ reports reports',
    new.reports (before ++ step :: after) = new.reports before ++ report :: reports ∧
    new.reports (before ++ after) = new.reports before ++ reports' ∧
    ReportsAgree (skip k) (k + 1) failed after reports reports') ∧
  ∀ xs : List Happening, Agree (skip k) failed.server.journal session.server.journal
    ((xs.map (·.renumber (skip k))).foldl happen failed) (xs.foldl happen session)
  := by
  intro new k session failed report
  have hnew : new.Reachable := .new files settings commands awaiting
  have hreachable : session.Reachable := hnew.run before
  have hmoves : session.server.moves = [] := hnew.moves_runFrom before 0 rfl
  -- The requests that wait come from earlier steps, and these keep their numbers.
  have hself : Agree (skip k) [] [] session session :=
    .run files settings commands awaiting before fun i hi => skip_of_lt hi
  have hpending := hself.server.pending
  obtain ⟨⟨facts, haside, hjournal⟩, hagree⟩ := h.perform hreachable hpending k
  have hfailed : failed = (session.perform k step).1 := h.after hreachable hmoves hpending k
  rw [← hfailed] at hjournal hagree
  refine ⟨h.report haside hjournal, ?_, ?_, ?_⟩
  · exact ⟨hagree.files, hagree.server.runs, hagree.server.awaiting,
      hagree.server.pending.trans hpending.symm, hagree.server.clock, hagree.server.timelineOf⟩
  · intro after
    use failed.reportsFrom (k + 1) after, session.reportsFrom k after
    refine ⟨?_, ?_, ?_⟩
    · rw [reports, reportsFrom_append, Nat.zero_add]
      rfl
    · rw [reports, reportsFrom_append, Nat.zero_add]
      rfl
    · apply hagree.reportsFrom (skip_strictMono k) after (skip_add k)
  · intro xs
    apply Agree.happens xs hagree

/-- A start that fails because of a wait, while the end of a running timeline is waited for.
Without it the stop that comes next has another number, and all is answered as it was. -/
theorem erases_of_wait :
  let new : Session := { files := .ofList [("timelines/show", .file (.text "#wait 5")),
    ("timelines/broken", .file (.text "#wait soon"))] }
  let before := [.start "show" [], .finished "show"]
  let after := [.stop "show", .state "broken"]
  let failed := (new.run before).after 2 (.start "broken" [])
  let reports := (new.reports (before ++ .start "broken" [] :: after)).drop 3
  let reports' := (new.reports (before ++ after)).drop 2
  ReportsAgree (skip 2) 3 failed after reports reports' ∧
  reports.map (·.answers)
    = [[(⟨some 1, "show"⟩, .ended .cancelled), (⟨some 3, "show"⟩, .stopped none)], []] ∧
  reports'.map (·.answers)
    = [[(⟨some 1, "show"⟩, .ended .cancelled), (⟨some 2, "show"⟩, .stopped none)], []]
  := by
  intro new before after failed reports reports'
  have hstart : ((new.run before).server.start (new.run before).files "broken" []).2
      = .error (.invalidWait 1 "soon") := by
    decide +kernel
  obtain ⟨-, -, hreports, -⟩ := erases new.files {} [] [] before (.start hstart)
  obtain ⟨later, later', hall, hall', hagree⟩ := hreports after
  have hlater : reports = later := congrArg (List.drop 3) hall
  have hlater' : reports' = later' := congrArg (List.drop 2) hall'
  rw [hlater, hlater']
  refine ⟨hagree, ?_, ?_⟩
  · rw [← hlater]
    decide +kernel
  · rw [← hlater']
    decide +kernel

end Session

end CommandTimelines
