import CommandTimelines.Proofs.Completion

/-!
# Punctual sessions

Any interleaving may let time pass while something could still be done, and then a run is late
through no fault of its own. A session is *punctual* if time passes in it only where nothing can
move, and never beyond an instant that a run waits for (`Session.Punctual`). Scripts of steps are
punctual, however they split the time (`Session.Punctual.runFrom`), and nothing but the passing of
time moves the clock (`Session.clock_happen`).
-/

namespace CommandTimelines

open Host Operator

/-- Whether something that happens in a session lets no run be late: time passes only where
nothing can move, and not beyond an instant that a run waits for. -/
def Happening.IsPunctual (session : Session) : Happening → Prop
  | .pass milliseconds => session.server.moves = []
    ∧ ∀ deadline ∈ session.server.deadlines, session.server.clock + milliseconds ≤ deadline
  | _ => True

namespace Session

/-- The sessions that come about from a new one, whatever happens and in whatever order, as long
as no run is made late. -/
inductive Punctual : Session → Prop
  | new (files : Files) (settings : Settings) (commands : List Command)
      (awaiting : List Awaiting) :
      Punctual { files, server := { settings, commands, awaiting } }
  | happen {session : Session} (h : Punctual session) (x : Happening)
      (hx : x.IsPunctual session) :
      Punctual (session.happen x)

theorem Punctual.reachable {session : Session} (h : session.Punctual) :
  session.Reachable
  := by
  induction h with
  | new files settings commands awaiting => apply Reachable.new
  | happen _ x _ ih => apply ih.happen

/-! ### Scripts -/

theorem Punctual.settle {session : Session} (h : session.Punctual) :
  (session.withServer session.server.settle).Punctual
  := by
  apply Server.settle_induction _ (P := fun s => (session.withServer s).Punctual) _ h
  intro s move hs
  apply hs.happen (.move move) trivial

/-- Where nothing can move, a later time is reached that no run waits for anything before. -/
theorem Punctual.setClock {session : Session} (h : session.Punctual)
    (hmoves : session.server.moves = []) {time : Nat} (htime : session.server.clock ≤ time)
    (hdue : ∀ deadline ∈ session.server.deadlines, time ≤ deadline) :
  (session.withServer (session.server.setClock time)).Punctual
  := by
  have hclock : session.server.clock + (time - session.server.clock) = time :=
    Nat.add_sub_cancel' htime
  have hpass := h.happen (.pass (time - session.server.clock)) ⟨hmoves, by rwa [hclock]⟩
  rw [Session.happen, hclock] at hpass
  apply hpass

/-- Time that passes stops at each instant that a run waits for. -/
theorem Punctual.advance {session : Session} (h : session.Punctual)
    (hmoves : session.server.moves = []) (milliseconds : Nat) :
  (session.withServer (session.server.advance milliseconds)).Punctual
  := by
  apply h.reachable.server.advance_induction (P := fun s => (session.withServer s).Punctual) _ _
    hmoves h
  · intro s hs
    apply hs.settle
  · intro s time hsettled htime hdue hs
    apply hs.setClock hsettled htime hdue

/-- No step of a script makes a run late. -/
theorem Punctual.after {session : Session} (h : session.Punctual) (index : Nat)
    (step : Step) :
  (session.after index step).Punctual
  := by
  have hsettled := (h.happen (.perform index step) trivial).settle
  apply hsettled.advance (Server.moves_settle _)

theorem Punctual.runFrom (steps : List Step) :
  ∀ {session : Session} (index : Nat), session.Punctual → (session.runFrom index steps).Punctual
  := by
  induction steps with
  | nil =>
    intro session index h
    apply h
  | cons step rest ih =>
    intro session index h
    apply ih (index + 1) (h.after index step)

end Session

/-! ### The clock -/

/-- Nothing that is asked of the server takes time. -/
theorem Server.aloof_clock :
  Server.Aloof Server.clock
  := Server.steady_clock.aloof
    (fun s => Server.steady_clock.commit s (fun _ _ => rfl) fun _ _ => rfl) fun _ _ _ => rfl

namespace Session

variable (session : Session)

theorem clock_perform (index : Nat) (step : Step) :
  (session.perform index step).1.server.clock = session.server.clock
  := perform_of_aloof Server.aloof_clock session index (fun _ _ => rfl) fun _ => rfl

/-- Nothing but the passing of time moves the clock. -/
theorem clock_happen {x : Happening} (hpass : ∀ milliseconds, x ≠ .pass milliseconds) :
  (session.happen x).server.clock = session.server.clock
  := by
  cases x with
  | perform index step => apply clock_perform
  | commit opening => apply Server.aloof_clock.commit
  | commitFor ticket file opening => exact Server.aloof_clock.commit session.server opening
  | stopEach ticket ids => rfl
  | move move => exact Server.steady_clock.step _ (fun _ _ => rfl) move
  | pass milliseconds => exact absurd rfl (hpass milliseconds)

end Session

end CommandTimelines
