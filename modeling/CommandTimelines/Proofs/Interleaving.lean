import CommandTimelines.Proofs.Settling
import CommandTimelines.Session

/-!
# Interleavings

After each step of a script, `Session.after` lets everything happen that can, in one fixed
order. Here the order is left open. A `Happening` is what can happen in a session at one
instant: a step is performed, a start that has read its file sets up its run, a run or a
waiting request goes on, time passes. A session is *reachable* if it comes about from a new
one by any happenings in any order.

* `Session.Reachable.run`: whatever a script of steps leads to is reachable.
* `Session.Reachable.server`: the server of a reachable session comes about by changes.
* `Session.perform_of_aloof`: what a step leaves alone, whatever it asks for.
-/

namespace CommandTimelines

open Host

/-- What can happen in a session at one instant. -/
inductive Happening where
  /-- A step is performed, and nothing of what follows from it. -/
  | perform (index : Nat) (step : Step)
  /-- A start that has read its file sets up its run. -/
  | commit (opening : Opening)
  /-- A start that an operator asked for, and that has read the file, sets up its run. -/
  | commitFor (ticket : Ticket) (file : String) (opening : Opening)
  /-- Runs are to be stopped one after the other, in the order given. -/
  | stopEach (ticket : Ticket) (ids : List RunId)
  /-- A run or a waiting request goes on. -/
  | move (move : Server.Move)
  /-- Time passes. -/
  | pass (milliseconds : Nat)

namespace Session

/-- The session after something has happened in it. -/
def happen (session : Session) : Happening → Session
  | .perform index step => (session.perform index step).1
  | .commit opening => session.withServer (session.server.commit opening).1
  | .commitFor ticket file opening =>
    let (server, result) := session.server.commit opening
    session.withServer
      (server.answer ticket (.feedback (Operator.startFeedback file (Server.errorOf? result))))
  | .stopEach ticket ids => session.withServer (session.server.stopEach ticket ids)
  | .move move => session.withServer (session.server.step move)
  | .pass milliseconds =>
    session.withServer (session.server.setClock (session.server.clock + milliseconds))

/-- The sessions that come about from a new one, whatever happens and in whatever order. -/
inductive Reachable : Session → Prop
  | new (files : Files) (settings : Settings) (commands : List Command)
      (awaiting : List Awaiting) :
      Reachable { files, server := { settings, commands, awaiting } }
  | happen {session : Session} (h : Reachable session) (x : Happening) :
      Reachable (session.happen x)

/-! ### Sessions as changes -/

theorem perform_changes (session : Session) (index : Nat) (step : Step) :
  Server.Changes session.server (session.perform index step).1.server
  := by
  cases step with
  | start file args => apply Server.start_changes
  | startTwice file args =>
    rw [perform, startTwice]
    simp only
    split
    · apply Relation.ReflTransGen.refl
    · apply (Server.commit_changes _ _).trans (Server.commit_changes _ _)
  | stop file => apply Server.stop_changes
  | stopAll => apply Server.stopEach_changes
  | finished file =>
    simp only [perform]
    split
    · apply Relation.ReflTransGen.refl
    · apply Server.awaitEnd?_changes
      assumption
  | execute actor args => apply Server.execute_changes
  | register command => apply Server.register_changes
  | await response => apply Server.expect_changes
  | call name invocation => apply Server.callEach_changes
  | respond key invocation =>
    simp only [perform]
    split
    · apply Relation.ReflTransGen.refl
    · apply Server.respond?_changes
      assumption
  | running => apply Relation.ReflTransGen.refl
  | state file => apply Relation.ReflTransGen.refl
  | advance milliseconds => apply Relation.ReflTransGen.refl
  | write path node => apply Relation.ReflTransGen.refl
  | remove path => apply Relation.ReflTransGen.refl
  | awaited keys => apply Relation.ReflTransGen.refl
  | find name names => apply Relation.ReflTransGen.refl
  | commands => apply Relation.ReflTransGen.refl

theorem happen_changes (session : Session) (x : Happening) :
  Server.Changes session.server (session.happen x).server
  := by
  cases x with
  | perform index step => apply perform_changes
  | commit opening => apply Server.commit_changes
  | commitFor ticket file opening =>
    apply (Server.commit_changes _ opening).trans
    apply Server.answer_changes
    apply Server.stops_startFeedback
  | stopEach ticket ids => apply Server.stopEach_changes
  | move move => apply Server.step_changes
  | pass milliseconds =>
    apply Server.setClock_changes
    apply Nat.le_add_right

/-- Whatever happens one after the other, it comes about by changes. -/
theorem happens_changes (xs : List Happening) (session : Session) :
  Server.Changes session.server (xs.foldl happen session).server
  := by
  induction xs generalizing session with
  | nil => apply Relation.ReflTransGen.refl
  | cons x rest ih => apply (session.happen_changes x).trans (ih _)

/-- The server of a reachable session comes about by changes. -/
theorem Reachable.server {session : Session} (h : Reachable session) :
  session.server.Reachable
  := by
  induction h with
  | new files settings commands awaiting => apply Server.Reachable.new
  | happen _ x ih => apply ih.changes (happen_changes _ x)

/-- A step leaves an aloof view of the server as it is, unless the view looks at the commands that
are registered or at stops of all timelines. -/
theorem perform_of_aloof {α : Type} {view : Server → α} (h : Server.Aloof view)
    (session : Session) (index : Nat) {step : Step}
    (hregister : ∀ c, step = .register c →
      view (session.server.register c) = view session.server)
    (hstopAll : step = .stopAll →
      view (session.server.stopAll ⟨index, ""⟩) = view session.server) :
  view (session.perform index step).1.server = view session.server
  := by
  cases step with
  | start file args => apply h.start
  | startTwice file args =>
    rw [perform, startTwice]
    simp only
    split
    · rfl
    · apply (h.commit _ _).trans (h.commit _ _)
  | stop file => apply h.stop
  | stopAll => exact hstopAll rfl
  | finished file =>
    simp only [perform]
    split
    · rfl
    · rename_i server hawait
      apply h.awaitEnd? _ hawait
  | execute actor args => apply h.execute
  | register c => exact hregister c rfl
  | await response => apply h.awaiting
  | call name invocation => apply h.callEach
  | respond key invocation =>
    simp only [perform]
    split
    · rfl
    · rename_i server outcome hrespond
      apply h.respond? _ hrespond
  | _ => rfl

/-! ### Scripts -/

theorem Reachable.settle {session : Session} (h : Reachable session) :
  Reachable (session.withServer session.server.settle)
  := by
  apply Server.settle_induction _ (P := fun s => Reachable (session.withServer s)) _ h
  intro s move hs
  apply hs.happen (.move move)

/-- A later time is reached by letting time pass. -/
theorem Reachable.setClock {session : Session} (h : Reachable session) {time : Nat}
    (htime : session.server.clock ≤ time) :
  Reachable (session.withServer (session.server.setClock time))
  := by
  have hpass := h.happen (.pass (time - session.server.clock))
  rw [Session.happen, Nat.add_sub_cancel' htime] at hpass
  apply hpass

/-- Where nothing can move, time can pass, all that is due on the way being done. -/
theorem Reachable.advance {session : Session} (h : Reachable session)
    (hmoves : session.server.moves = []) (milliseconds : Nat) :
  Reachable (session.withServer (session.server.advance milliseconds))
  := by
  apply h.server.advance_induction (P := fun s => Reachable (session.withServer s)) _ _ hmoves h
  · intro s hs
    apply hs.settle
  · intro s time _ htime _ hs
    apply hs.setClock htime

/-- A session is reachable after a step and everything that follows from it. -/
theorem Reachable.after {session : Session} (h : Reachable session) (index : Nat)
    (step : Step) :
  Reachable (session.after index step)
  := by
  have hsettled := (h.happen (.perform index step)).settle
  apply hsettled.advance (Server.moves_settle _)

theorem Reachable.runFrom (steps : List Step) :
  ∀ {session : Session} (index : Nat), Reachable session →
    Reachable (session.runFrom index steps)
  := by
  induction steps with
  | nil =>
    intro session index h
    apply h
  | cons step rest ih =>
    intro session index h
    apply ih (index + 1) (h.after index step)

/-- Whatever a script of steps leads to is reachable. -/
theorem Reachable.run {session : Session} (h : Reachable session) (steps : List Step) :
  Reachable (session.run steps)
  := h.runFrom steps 0

/-- The steps of a script come after each other. -/
theorem runFrom_append (before after : List Step) (index : Nat) (session : Session) :
  session.runFrom index (before ++ after)
    = (session.runFrom index before).runFrom (index + before.length) after
  := by
  induction before generalizing index session with
  | nil => rfl
  | cons step rest ih =>
    simp only [List.cons_append, Session.runFrom, ih, List.length_cons, Nat.add_assoc,
      Nat.add_comm 1]

theorem run_append (before after : List Step) (session : Session) :
  session.run (before ++ after) = (session.run before).runFrom before.length after
  := by
  rw [run, runFrom_append, Nat.zero_add]
  rfl

/-- Whatever follows from a step, it comes about by changes. -/
theorem Reachable.perform_after_changes {session : Session} (h : Reachable session) (index : Nat)
    (step : Step) :
  Server.Changes (session.perform index step).1.server (session.after index step).server
  := by
  have hsettled := (h.happen (.perform index step)).settle.server
  apply (Server.settle_changes _).trans
  apply hsettled.advance_changes (Server.moves_settle _)

theorem Reachable.after_changes {session : Session} (h : Reachable session) (index : Nat)
    (step : Step) :
  Server.Changes session.server (session.after index step).server
  := (session.perform_changes index step).trans (h.perform_after_changes index step)

theorem Reachable.runFrom_changes (steps : List Step) :
  ∀ {session : Session} (index : Nat), Reachable session →
    Server.Changes session.server (session.runFrom index steps).server
  := by
  induction steps with
  | nil =>
    intro session index h
    apply Relation.ReflTransGen.refl
  | cons step rest ih =>
    intro session index h
    apply (h.after_changes index step).trans (ih (index + 1) (h.after index step))

end Session

end CommandTimelines
