import CommandTimelines.Proofs.CleanUp
import CommandTimelines.Proofs.Erasure
import CommandTimelines.Proofs.Mirroring

/-!
# Edits during a run

What a run does is settled when it is started. Edits that come later, of files and of the commands
that are registered, make no difference to it (`Session.withstandsEdits`): they are put in between
steps that were there before (`Woven`), and the session with the edits goes on mirroring the one
without them. They come to bear when a timeline is started again. Until then only those who ask
for commands by name can tell that one was put in, and it matters to the runs only if it is called
and does something.
-/

namespace CommandTimelines

open Host Script Operator

/-! ### Steps and edits -/

/-- Something that is done to what scripts are read from and with. -/
inductive Edit where
  | write (path : String) (node : Node)
  | remove (path : String)
  | register (command : Command)

/-- The files after a step. -/
def Step.editedFiles (files : Files) : Step → Files
  | .write path node => files.write (Files.pathOf path) node
  | .remove path => files.remove (Files.pathOf path)
  | _ => files

/-- The commands that a step registers. -/
def Step.registered : Step → List Command
  | .register command => [command]
  | _ => []

/-- The step that makes an edit. -/
def Edit.step : Edit → Step
  | .write path node => .write path node
  | .remove path => .remove path
  | .register command => .register command

/-- Whether a step may start a timeline, for the program or for an operator. -/
def Step.mayStart : Step → Bool
  | .start _ _ => true
  | .startTwice _ _ => true
  | .execute actor words =>
    match Request.ofArgs words with
    | .start file args => ((Request.start file args).forbidden? actor).isNone
    | _ => false
  | _ => false

/-- Whether a step calls, by a name that it answers to, one of the commands that does something
to the server. -/
def Step.rouses (put : List Command) : Step → Bool
  | .call name _ => put.any fun c => c.answersTo name && !c.behaviour.isInert
  | _ => false

/-- Whether a step neither starts a timeline nor calls a command in `put` that does something. -/
def Step.isQuiet (put : List Command) (step : Step) : Bool := !step.mayStart && !step.rouses put

/-- Whether what happens neither starts a timeline nor calls a command in `put` that does
something. -/
def Happening.isQuiet (put : List Command) : Happening → Bool
  | .perform _ step => step.isQuiet put
  | .commit _ => false
  | .commitFor _ _ _ => false
  | .stopEach _ _ => true
  | .move _ => true
  | .pass _ => true

/-- The happening of an edit. No number of a step matters to it. -/
def Happening.edit (edit : Edit) : Happening := .perform 0 edit.step

/-- Steps or happenings with edits put in between. -/
abbrev Woven (α : Type) := List (α ⊕ Edit)

namespace Woven

variable {α : Type}

/-- What is there without the edits. -/
def kept (woven : Woven α) : List α := woven.filterMap Sum.getLeft?

/-- All that there is, with the edits among it. -/
def all (ofEdit : Edit → α) (woven : Woven α) : List α := woven.map (Sum.elim id ofEdit)

/-- Whether all but the edits is quiet, given the commands that have been put in before, `put` at
first. -/
def isQuiet (quiet : List Command → α → Bool) : List Command → Woven α → Bool
  | _, [] => true
  | put, .inl x :: rest => quiet put x && isQuiet quiet put rest
  | put, .inr edit :: rest => isQuiet quiet (put ++ edit.step.registered) rest

/-- The position among all that there is of what has a position without the edits. -/
def place : Woven α → Nat → Nat
  | [], n => n
  | .inl _ :: _, 0 => 0
  | .inl _ :: rest, n + 1 => place rest n + 1
  | .inr _ :: rest, n => place rest n + 1

theorem getElem?_place (ofEdit : Edit → α) (woven : Woven α) (n : Nat) :
  (woven.all ofEdit)[woven.place n]? = woven.kept[n]?
  := by
  fun_induction place woven n with
  | case1 n => rfl
  | case2 => rfl
  | case3 x rest n ih => exact ih
  | case4 edit rest n ih => exact ih

/-- The number of a step among all steps, if it is the step `n` without the edits and `k` steps
come before these. -/
def number (woven : Woven Step) (k n : Nat) : Nat := if n < k then n else k + woven.place (n - k)

theorem number_add (woven : Woven Step) (k n : Nat) :
  woven.number k (k + n) = k + woven.place n
  := by
  rw [number, if_neg (Nat.not_lt.mpr (Nat.le_add_right _ _)), Nat.add_sub_cancel_left]

theorem getElem?_number (woven : Woven Step) (before : List Step) (n : Nat) :
  (before ++ woven.all Edit.step)[woven.number before.length n]? = (before ++ woven.kept)[n]?
  := by
  rw [number]
  split
  · rename_i hlt
    rw [List.getElem?_append_left hlt, List.getElem?_append_left hlt]
  · rename_i hge
    rw [List.getElem?_append_right (Nat.le_add_right _ _), Nat.add_sub_cancel_left,
      List.getElem?_append_right (Nat.le_of_not_lt hge), getElem?_place]

end Woven

/-! ### What starts look at -/

namespace Server

/-- Nothing that is asked of the server registers a command, unless it says so. -/
theorem aloof_commands :
  Aloof (·.commands)
  := by
  have hsteady : Steady (·.commands) := by
    constructor <;> intros <;> rfl
  exact hsteady.aloof (fun s => hsteady.commit s (fun _ _ => rfl) fun _ _ => rfl) fun _ _ _ => rfl

theorem commands_settle (s : Server) :
  s.settle.commands = s.commands
  := commands_eq s (settle_withCommands s)

theorem commands_advance (s : Server) (milliseconds : Nat) :
  (s.advance milliseconds).commands = s.commands
  := commands_eq s fun commands => advance_withCommands s commands milliseconds

end Server

namespace Session

variable (session : Session) (index : Nat) (step : Step)

theorem files_perform :
  (session.perform index step).1.files = step.editedFiles session.files
  := by
  cases step with
  | startTwice file args =>
    simp only [perform, startTwice]
    split <;> rfl
  | finished file =>
    simp only [perform]
    split <;> rfl
  | respond key invocation =>
    simp only [perform]
    split <;> rfl
  | _ => rfl

theorem commands_perform :
  (session.perform index step).1.server.commands = session.server.commands ++ step.registered
  := by
  cases step with
  | register command => rfl
  | _ =>
    rw [Step.registered, List.append_nil]
    · exact perform_of_aloof Server.aloof_commands session index nofun fun _ => rfl
    · exact nofun

theorem files_after :
  (session.after index step).files = step.editedFiles session.files
  := session.files_perform index step

theorem commands_after :
  (session.after index step).server.commands = session.server.commands ++ step.registered
  := by
  rw [after, withServer, Server.commands_advance, Server.commands_settle, commands_perform]

/-- The files and the commands after a script are those that its steps have left. -/
theorem edited_runFrom (steps : List Step) :
  ∀ (session : Session) (index : Nat),
    (session.runFrom index steps).files = steps.foldl Step.editedFiles session.files ∧
    (session.runFrom index steps).server.commands
      = session.server.commands ++ steps.flatMap Step.registered
  := by
  induction steps with
  | nil =>
    intro session index
    exact ⟨rfl, (List.append_nil _).symm⟩
  | cons step rest ih =>
    intro session index
    obtain ⟨hfiles, hcommands⟩ := ih (session.after index step) (index + 1)
    rw [files_after] at hfiles
    rw [commands_after, List.append_assoc] at hcommands
    exact ⟨hfiles, hcommands⟩

/-! ### Sessions with edits -/

/-- Sessions whose servers mirror each other. Their files need not have anything in common. -/
structure Mirrors (ρ : Nat → Nat) (put : List Command) (session session' : Session) : Prop where
  reachable : session.Reachable
  reachable' : session'.Reachable
  server : session.server.Mirrors ρ put session'.server

namespace Mirrors

variable {ρ : Nat → Nat} {put : List Command} {session session' : Session}
  (h : Mirrors ρ put session session')

include h

/-- A quiet step keeps the servers of two sessions mirroring each other. -/
theorem server_perform {index index' : Nat} (hindex : ρ index' = index) {step : Step}
    (hquiet : step.isQuiet put) :
  (session.perform index step).1.server.Mirrors ρ put (session'.perform index' step).1.server
  := by
  subst hindex
  have hserver := h.server
  obtain ⟨hstart, hrouses⟩ : step.mayStart = false ∧ step.rouses put = false := by
    simpa [Step.isQuiet] using hquiet
  cases step with
  | start file args => cases hstart
  | startTwice file args => cases hstart
  | stop file => apply hserver.stop ⟨index', file⟩
  | stopAll => apply hserver.stopAll ⟨index', ""⟩
  | finished file =>
    have hawait : Option.Rel (Server.Mirrors ρ put)
        (session.server.awaitEnd? ⟨ρ index', file⟩ file)
        (session'.server.awaitEnd? ⟨index', file⟩ file) :=
      hserver.awaitEnd? ⟨index', file⟩ file
    simp only [Session.perform]
    generalize session.server.awaitEnd? _ file = a at hawait
    generalize session'.server.awaitEnd? _ file = b at hawait
    cases hawait with
    | none => exact hserver
    | some hawaits => exact hawaits
  | execute actor words =>
    apply hserver.execute h.reachable.server h.reachable'.server ⟨index', ""⟩
    intro file args hwords hallowed
    simp [Step.mayStart, hwords, hallowed] at hstart
  | running => exact hserver
  | state file => exact hserver
  | advance milliseconds => exact hserver
  | write path node => exact hserver
  | remove path => exact hserver
  | register command => apply hserver.register
  | await response => apply hserver.expect
  | awaited keys => exact hserver
  | find name names => exact hserver
  | commands => exact hserver
  | call name invocation =>
    apply Server.Mirrors.callEach invocation _ (hserver.commands.filter (·.answersTo name)) hserver
    intro c hc
    obtain ⟨hput, hanswers⟩ := List.mem_filter.mp hc
    simpa [hanswers] using List.any_eq_false.mp hrouses c hput
  | respond key invocation =>
    have hrespond := hserver.respond? key invocation
    simp only [Session.perform]
    generalize session.server.respond? none key invocation = a at hrespond
    generalize session'.server.respond? none key invocation = b at hrespond
    cases hrespond with
    | none => exact hserver
    | some hresponded => exact hresponded.1

theorem perform {index index' : Nat} (hindex : ρ index' = index) {step : Step}
    (hquiet : step.isQuiet put) :
  Mirrors ρ put (session.perform index step).1 (session'.perform index' step).1
  where
  reachable := h.reachable.happen (.perform index step)
  reachable' := h.reachable'.happen (.perform index' step)
  server := h.server_perform hindex hquiet

/-- An edit of one session changes nothing but its files and its commands. -/
theorem perform_edit (index : Nat) (edit : Edit) :
  Mirrors ρ (put ++ edit.step.registered) (session.perform index edit.step).1 session'
  where
  reachable := h.reachable.happen (.perform index edit.step)
  reachable' := h.reachable'
  server := by
    have hserver : (session.perform index edit.step).1.server
        = session.server.withCommands (session.server.commands ++ edit.step.registered) := by
      cases edit with
      | register c => rfl
      | write path node => exact congrArg session.server.withCommands (List.append_nil _).symm
      | remove path => exact congrArg session.server.withCommands (List.append_nil _).symm
    rw [hserver]
    apply h.server.withCommands

/-! ### Happenings -/

theorem happen {x : Happening} (hquiet : x.isQuiet put) :
  Mirrors ρ put (session.happen (x.renumber ρ)) (session'.happen x)
  := by
  refine ⟨h.reachable.happen _, h.reachable'.happen _, ?_⟩
  cases x with
  | perform index step => exact h.server_perform rfl hquiet
  | commit o => cases hquiet
  | commitFor ticket file o => cases hquiet
  | stopEach ticket ids => exact h.server.stopEach ticket ids
  | move move => exact h.server.step h.reachable'.server move
  | pass milliseconds =>
    have hclock : session.server.clock = session'.server.clock := h.server.agree.clock
    simp only [Happening.renumber, Session.happen, hclock]
    apply h.server.setClock

omit h in
theorem happens (woven : Woven Happening) :
  ∀ {put : List Command} {session session' : Session}, Mirrors id put session session' →
    woven.isQuiet Happening.isQuiet put →
    ∃ put', Mirrors id put' ((woven.all Happening.edit).foldl Session.happen session)
      (woven.kept.foldl Session.happen session')
  := by
  induction woven with
  | nil =>
    intro put session session' h hquiet
    exact ⟨put, h⟩
  | cons first rest ih =>
    intro put session session' h hquiet
    cases first with
    | inl x =>
      obtain ⟨hx, hrest⟩ := Bool.and_eq_true_iff.mp hquiet
      have hhappened := h.happen hx
      rw [Happening.renumber_id] at hhappened
      exact ih hhappened hrest
    | inr edit => exact ih (h.perform_edit 0 edit) hquiet

/-! ### Scripts -/

theorem after {index index' : Nat} (hindex : ρ index' = index) {step : Step}
    (hquiet : step.isQuiet put) :
  Mirrors ρ put (session.after index step) (session'.after index' step)
  where
  reachable := h.reachable.after index step
  reachable' := h.reachable'.after index' step
  server := by
    have hperformed := h.perform hindex hquiet
    have hsettled := hperformed.server.settle hperformed.reachable'.server
    have hreachable := hperformed.reachable'.settle.server
    apply hsettled.advance hreachable (Server.moves_settle _)

/-- Where nothing can move, nothing follows from an edit. -/
theorem after_edit (hmoves : session'.server.moves = []) (index : Nat) (edit : Edit) :
  Mirrors ρ (put ++ edit.step.registered) (session.after index edit.step) session'
  := by
  have hedited := h.perform_edit index edit
  have hmoves' : (session.perform index edit.step).1.server.moves = [] :=
    hedited.server.moves.trans hmoves
  have hduration : edit.step.duration = 0 := by
    cases edit <;> rfl
  rw [h.reachable.after_eq_perform hduration hmoves']
  exact hedited

omit h in
/-- A script with edits put in among its steps does the same as the one without them. -/
theorem runFrom (woven : Woven Step) :
  ∀ {put : List Command} {session session' : Session} {index index' : Nat},
    Mirrors ρ put session session' → session'.server.moves = [] →
    (∀ n, ρ (index' + n) = index + woven.place n) → woven.isQuiet Step.isQuiet put →
    ∃ put', Mirrors ρ put' (session.runFrom index (woven.all Edit.step))
      (session'.runFrom index' woven.kept)
  := by
  induction woven with
  | nil =>
    intro put session session' index index' h hmoves hindex hquiet
    exact ⟨put, h⟩
  | cons first rest ih =>
    intro put session session' index index' h hmoves hindex hquiet
    cases first with
    | inl step =>
      obtain ⟨hstep, hrest⟩ := Bool.and_eq_true_iff.mp hquiet
      have hnext : ∀ n, ρ (index' + 1 + n) = index + 1 + Woven.place rest n := by
        intro n
        have hplace := hindex (n + 1)
        rw [Woven.place] at hplace
        rw [Nat.add_right_comm, Nat.add_assoc, hplace, Nat.add_right_comm, Nat.add_assoc]
      exact ih (h.after (hindex 0) hstep) (h.reachable'.moves_after index' step) hnext hrest
    | inr edit =>
      have hnext : ∀ n, ρ (index' + n) = index + 1 + Woven.place rest n := by
        intro n
        rw [hindex, Woven.place, Nat.add_right_comm, Nat.add_assoc]
      exact ih (h.after_edit hmoves index edit) hmoves hnext hquiet

end Mirrors

/-! ### Runs that are fixed -/

/-- Sessions in which the same has come of all runs and of all requests, but for the numbers of
steps, which `ρ` translates. -/
structure SameRuns (ρ : Nat → Nat) (session session' : Session) : Prop where
  told : session.server.told = session'.server.told.map (·.renumber ρ)
  historyOf : ∀ id,
    session.server.historyOf id = (session'.server.historyOf id).map (·.renumber ρ)
  runs : session.server.runs = session'.server.runs
  timelineOf : ∀ key, session.server.timelineOf key = session'.server.timelineOf key
  pending : session.server.pending = session'.server.pending.map (·.renumber ρ)
  awaiting : session.server.awaiting = session'.server.awaiting
  clock : session.server.clock = session'.server.clock

theorem Mirrors.sameRuns {ρ : Nat → Nat} {put : List Command} {session session' : Session}
    (h : Mirrors ρ put session session') :
  session.SameRuns ρ session'
  where
  told := h.server.told
  historyOf := by
    intro id
    rw [Server.historyOf_eq_filter_told, Server.historyOf_eq_filter_told, h.server.told,
      List.filter_map]
    simp only [Function.comp_def, Entry.isOf_renumber]
  runs := h.server.agree.runs
  timelineOf := h.server.agree.timelineOf
  pending := h.server.agree.pending
  awaiting := h.server.agree.awaiting
  clock := h.server.agree.clock

end Session

namespace Server

variable {s t : Server} {id : RunId} {run : Run} {cancelled : Bool}

/-- A run that has ended stays as it is, and nothing more comes about in it. -/
theorem Reachable.ended_of_change (h : s.Reachable) (hchange : s.Change t)
    (hrun : s.runs[id]? = some run) (hended : run.phase = .ended cancelled) :
  t.runs[id]? = some run ∧ t.historyOf id = s.historyOf id
  := by
  cases hchange with
  | aside commands awaiting hturns hclock => exact ⟨hrun, rfl⟩
  | record fact hnone hstops =>
    have hfacts : ∀ fact' ∈ [fact], fact'.run? = none := by simpa using hnone
    exact ⟨hrun, historyOf_of_none s hfacts id⟩
  | enroll key =>
    obtain ⟨timelines, heq⟩ := enroll_eq s key
    rw [heq]
    exact ⟨hrun, rfl⟩
  | launch o body cleanUp hidle hknown hbody hcleanUp =>
    have hlt := (List.getElem?_eq_some_iff.mp hrun).1
    have hfacts : ∀ fact ∈ [Fact.published s.runs.length (.started o.key body.length)],
        fact.run? = some s.runs.length := by
      simp [Fact.run?]
    refine ⟨(List.getElem?_append_left hlt).trans hrun, ?_⟩
    rw [historyOf, history, filter_reverse_journalWith,
      filter_isOf_of_ne hfacts (Nat.ne_of_lt hlt), List.append_nil]
  | @work other run' run'' facts pending hother hnext hfollows =>
    have hne : id ≠ other := by
      rintro rfl
      obtain rfl := Option.some.inj (hrun.symm.trans hother)
      exact hnext.phase_ne_ended (h.lived hrun).counted cancelled hended
    refine ⟨(List.getElem?_set_ne hne.symm).trans hrun, ?_⟩
    rw [historyOf, history, filter_reverse_journalWith,
      filter_isOf_of_ne (fun fact hfact => hnext.run?_eq hfact) hne, List.append_nil]
  | serve hserved => exact ⟨hrun, historyOf_of_none s (fun fact hfact => hserved.run?_eq hfact) id⟩

theorem Reachable.ended_of_changes (h : s.Reachable) (hchanges : Changes s t)
    (hrun : s.runs[id]? = some run) (hended : run.phase = .ended cancelled) :
  t.runs[id]? = some run ∧ t.historyOf id = s.historyOf id
  := by
  induction hchanges with
  | refl => exact ⟨hrun, rfl⟩
  | tail hbefore hchange ih =>
    obtain ⟨hbetween, hhistory⟩ := ih
    obtain ⟨hafter, hhistory'⟩ := (h.changes hbefore).ended_of_change hchange hbetween hended
    exact ⟨hafter, hhistory'.trans hhistory⟩

end Server

namespace Session

/-- What has come of a run that has ended is the same in two sessions from then on, whatever each
of them goes on with. -/
theorem SameRuns.runFrom {ρ : Nat → Nat} {session session' : Session}
    (h : session.SameRuns ρ session') (hreachable : session.Reachable)
    (hreachable' : session'.Reachable) {id : RunId} (hended : session'.server.hasEnded id)
    (index index' : Nat) (steps steps' : List Step) :
  (session.runFrom index steps).server.historyOf id
    = ((session'.runFrom index' steps').server.historyOf id).map (·.renumber ρ) ∧
  (session.runFrom index steps).server.runs[id]? = (session'.runFrom index' steps').server.runs[id]?
  := by
  rw [Server.hasEnded] at hended
  split at hended
  · rename_i run hrun'
    have hrun : session.server.runs[id]? = some run := by rw [h.runs, hrun']
    obtain ⟨cancelled, hphase⟩ := Run.exists_ended (by simpa using hended)
    obtain ⟨hfinal, hhistory⟩ := hreachable.server.ended_of_changes
      (hreachable.runFrom_changes steps index) hrun hphase
    obtain ⟨hfinal', hhistory'⟩ := hreachable'.server.ended_of_changes
      (hreachable'.runFrom_changes steps' index') hrun' hphase
    rw [hfinal, hfinal', hhistory, hhistory']
    exact ⟨h.historyOf id, rfl⟩
  · cases hended

/-- Edits make no difference to the runs that there are. A script is continued by steps of which
none starts a timeline, and edits are put in anywhere among these, but no step calls a command that
was put in before and that does something when it is called. Then all that comes about in the runs
is the same with the edits and without them, at the same times, and so are all answers to requests.
What has come of a run that has ended stays the same whatever follows. A later start finds the
files and the commands that the edits have left, and does what it would do if these had been there
without the edits. The same holds if what happens among the edits happens in any other order. -/
theorem withstandsEdits (files : Files) (settings : Settings) (commands : List Command)
    (awaiting : List Awaiting) (before : List Step) {woven : Woven Step}
    (hquiet : woven.isQuiet Step.isQuiet []) :
  let new : Session := { files, server := { settings, commands, awaiting } }
  let session := new.run before
  let plain := new.run (before ++ woven.kept)
  let edited := new.run (before ++ woven.all Edit.step)
  let ρ := woven.number before.length
  (∀ n, (before ++ woven.all Edit.step)[ρ n]? = (before ++ woven.kept)[n]?) ∧
  edited.SameRuns ρ plain ∧
  (∀ id, plain.server.hasEnded id → ∀ later later' : List Step,
    let done := new.run (before ++ woven.all Edit.step ++ later)
    let done' := new.run (before ++ woven.kept ++ later')
    done.server.historyOf id = (done'.server.historyOf id).map (·.renumber ρ) ∧
    done.server.runs[id]? = done'.server.runs[id]?) ∧
  (edited.files = (woven.all Edit.step).foldl Step.editedFiles session.files ∧
    edited.server.commands
      = session.server.commands ++ (woven.all Edit.step).flatMap Step.registered ∧
    ∀ file args,
      let server := plain.server.withCommands edited.server.commands
      let started := edited.server.start edited.files file args
      let started' := server.start edited.files file args
      started.1.runs = started'.1.runs ∧ started.2 = started'.2) ∧
  ∀ other : Session, other.Reachable →
    ∀ xs : Woven Happening, xs.isQuiet Happening.isQuiet [] →
      ((xs.all Happening.edit).foldl happen other).SameRuns id (xs.kept.foldl happen other)
  := by
  intro new session plain edited ρ
  have hnew : new.Reachable := .new files settings commands awaiting
  have hplain : plain = session.runFrom before.length woven.kept := run_append _ _ new
  have hedited : edited = session.runFrom before.length (woven.all Edit.step) :=
    run_append _ _ new
  -- The steps that come before keep their numbers.
  have hself : Agree ρ [] [] session session :=
    .run files settings commands awaiting before fun i hi => if_pos hi
  obtain ⟨put, hmirrors⟩ : ∃ put, Mirrors ρ put edited plain := by
    rw [hplain, hedited]
    apply Mirrors.runFrom woven ⟨hself.reachable, hself.reachable, .self hself.server⟩
      (hnew.moves_runFrom before 0 rfl) (woven.number_add before.length) hquiet
  refine ⟨woven.getElem?_number before, hmirrors.sameRuns, ?_, ?_, ?_⟩
  · intro id hended later later' done done'
    have hdone : done = edited.runFrom (before ++ woven.all Edit.step).length later :=
      run_append _ _ new
    have hdone' : done' = plain.runFrom (before ++ woven.kept).length later' := run_append _ _ new
    rw [hdone, hdone']
    apply hmirrors.sameRuns.runFrom hmirrors.reachable hmirrors.reachable' hended
  · obtain ⟨hfiles, hcommands⟩ :=
      edited_runFrom (woven.all Edit.step) session before.length
    rw [← hedited] at hfiles hcommands
    refine ⟨hfiles, hcommands, ?_⟩
    intro file args server started started'
    obtain ⟨hstarted, hresult⟩ := hmirrors.server.agree.start edited.files file args
    exact ⟨hstarted.runs, hresult⟩
  · intro other hother xs hxs
    obtain ⟨put, hmirrors⟩ :=
      Mirrors.happens xs ⟨hother, hother, .self (.self_id other.server)⟩ hxs
    exact hmirrors.sameRuns

/-- A file that is overwritten and removed while it runs, and a command that is registered under the
name that it uses, and that would stop it. Its calls and their times stay as they are, and the
question about its end is answered as before. A later start does not find the file. -/
theorem withstandsEdits_of_overwriting :
  let new : Session := {
    files := .ofList [("timelines/show", .file (.text "say hi\n#wait 5\nsay bye"))]
    server := { commands := [{ given := ["say"] }] } }
  let woven : Woven Step := [.inr (.register { given := ["say"], behaviour := .stop }),
    .inr (.write "timelines/show" (.file (.text "#wait 9"))), .inl (.advance 2),
    .inl (.finished "show"), .inr (.remove "timelines/show"), .inl (.advance 3)]
  let plain := new.run ([.start "show" []] ++ woven.kept)
  let edited := new.run ([.start "show" []] ++ woven.all Edit.step)
  edited.SameRuns (woven.number 1) plain ∧
  (edited.server.historyOf 0).filterMap
      (fun entry => entry.call?.map fun call => (entry.time, call.invocation.raw))
    = [(0, "say hi"), (5, "say bye")] ∧
  edited.server.history.filterMap (·.answer?) = [(⟨some 4, "show"⟩, .ended .finished)] ∧
  plain.server.history.filterMap (·.answer?) = [(⟨some 2, "show"⟩, .ended .finished)] ∧
  (edited.server.start edited.files "show" []).2 = .error (.notFound "show")
  := by
  intro new woven plain edited
  have hquiet : woven.isQuiet Step.isQuiet [] := by decide +kernel
  obtain ⟨-, hsame, -⟩ :=
    withstandsEdits new.files {} new.server.commands [] [.start "show" []] hquiet
  exact ⟨hsame, by decide +kernel, by decide +kernel, by decide +kernel, by decide +kernel⟩

/-- A command that is put in can be called directly by a step that was there before, and stop a run
that would have gone on without the edit. -/
theorem register_changes_run :
  let new : Session := { files := .ofList [("timelines/show", .file (.text "#wait 5"))] }
  let steps : List Step := [.call "halt" { raw := "halt show", args := ["show"] }, .advance 5]
  let edit : Edit := .register { given := ["halt"], behaviour := .stop }
  let plain := new.run (.start "show" [] :: steps)
  let edited := new.run (.start "show" [] :: edit.step :: steps)
  (∀ step ∈ steps, step.mayStart = false) ∧
  (plain.server.historyOf 0).filter (·.event?.isSome)
    = [⟨0, .published 0 (.started "show" 1)⟩, ⟨5, .published 0 (.finished "show" false)⟩] ∧
  (edited.server.historyOf 0).filter (·.event?.isSome)
    = [⟨0, .published 0 (.started "show" 1)⟩, ⟨0, .published 0 (.finished "show" true)⟩]
  := by
  decide +kernel

end Session

end CommandTimelines
