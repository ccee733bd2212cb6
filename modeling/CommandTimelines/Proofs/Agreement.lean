import CommandTimelines.Proofs.Lifecycle

/-!
# Servers that agree

Two servers *agree* (`Server.Agree`) if they differ in nothing that timelines, calls and requests
depend on. They may have come to where they are by different ways: what was written to their
journals before some time may differ, the steps that asked for things may be numbered otherwise,
and a timeline that was never started may be known to one of them only, for a timeline that is
not known counts as one without a run (`Server.timelineOf`).

Servers that agree go on agreeing whatever is done to both of them. There is one lemma for each
operation, and each of them comes down to those on the small changes that come first.
-/

namespace CommandTimelines

open Host Script Operator

/-! ### Other numbers for steps -/

section

variable (ρ : Nat → Nat)

/-- The ticket of a step that has another number. -/
def Ticket.renumber (ticket : Ticket) : Ticket := { ticket with step := ticket.step.map ρ }

/-- A request of a step that has another number. -/
def Pending.renumber : Pending → Pending
  | .stopping ticket asker id => .stopping (ticket.renumber ρ) asker id
  | .finishing ticket id => .finishing (ticket.renumber ρ) id
  | .stoppingAll ticket current rest count =>
    .stoppingAll (ticket.renumber ρ) current rest count

/-- A fact about steps that have other numbers. -/
def Fact.renumber : Fact → Fact
  | .claimed id stop => .claimed id (stop.map (·.renumber ρ))
  | .answered ticket reply => .answered (ticket.renumber ρ) reply
  | fact => fact

/-- An entry about steps that have other numbers. -/
def Entry.renumber (entry : Entry) : Entry := { entry with fact := entry.fact.renumber ρ }

/-- Steps that keep their numbers. -/
@[simp]
theorem Ticket.renumber_id (ticket : Ticket) :
  ticket.renumber id = ticket
  := by
  rw [renumber, Option.map_id_fun, id]

@[simp]
theorem Pending.renumber_id (p : Pending) :
  p.renumber id = p
  := by
  cases p <;> simp [renumber]

@[simp]
theorem Entry.renumber_id (entry : Entry) :
  entry.renumber id = entry
  := by
  obtain ⟨time, fact⟩ := entry
  cases fact <;> simp [renumber, Fact.renumber]

@[simp]
theorem Entry.call?_renumber (entry : Entry) :
  (entry.renumber ρ).call? = entry.call?
  := by
  obtain ⟨time, fact⟩ := entry
  cases fact <;> rfl

@[simp]
theorem Entry.event?_renumber (entry : Entry) :
  (entry.renumber ρ).event? = entry.event?
  := by
  obtain ⟨time, fact⟩ := entry
  cases fact <;> rfl

@[simp]
theorem Entry.note?_renumber (entry : Entry) :
  (entry.renumber ρ).note? = entry.note?
  := by
  obtain ⟨time, fact⟩ := entry
  cases fact <;> rfl

@[simp]
theorem Entry.answer?_renumber (entry : Entry) :
  (entry.renumber ρ).answer? = entry.answer?.map fun (ticket, reply) => (ticket.renumber ρ, reply)
  := by
  obtain ⟨time, fact⟩ := entry
  cases fact <;> rfl

/-- Tickets come in the same order if their steps do. -/
theorem Ticket.isBefore_renumber {ρ : Nat → Nat} (hρ : StrictMono ρ) (a b : Ticket) :
  (a.renumber ρ).isBefore (b.renumber ρ) = a.isBefore b
  := by
  obtain ⟨step, file⟩ := a
  obtain ⟨step', file'⟩ := b
  cases step with
  | none => cases step' <;> rfl
  | some m =>
    cases step' with
    | none => rfl
    | some n =>
      have hbeq : (ρ m == ρ n) = (m == n) := by
        rw [Bool.eq_iff_iff, beq_iff_eq, beq_iff_eq, hρ.injective.eq_iff]
      simp only [renumber, isBefore, Option.map_some, hρ.lt_iff_lt, hbeq]
      rfl

end

namespace Server

/-- The timeline with a key, which has no run if it is not known. -/
def timelineOf (s : Server) (key : String) : Timeline := (s.timeline? key).getD { key }

/-- Enrolling a timeline makes it known without a run, unless it is known. -/
theorem timeline?_enroll_eq (s : Server) (key other : String) :
  (s.enroll key).timeline? other
    = (s.timeline? other).or (if other = key then some { key } else none)
  := by
  rw [enroll]
  split
  · rename_i hknown
    obtain ⟨r, hr⟩ := Option.isSome_iff_exists.mp hknown
    by_cases hother : other = key
    · simp [hother, hr]
    · simp [hother]
  · simp only [Server.timeline?, List.find?_append, List.find?_singleton]
    by_cases hother : other = key
    · simp [hother]
    · simp [hother, Ne.symm hother]

/-- Enrolling a timeline gives it no run. -/
@[simp]
theorem timelineOf_enroll (s : Server) (key other : String) :
  (s.enroll key).timelineOf other = s.timelineOf other
  := by
  rw [timelineOf, timeline?_enroll_eq, timelineOf]
  cases s.timeline? other with
  | some t => rfl
  | none => by_cases hother : other = key <;> simp [hother]

/-- Enrolling a timeline makes it known, and no other one. -/
theorem isSome_timeline?_enroll (s : Server) (key other : String) :
  ((s.enroll key).timeline? other).isSome ↔ (s.timeline? other).isSome ∨ other = key
  := by
  rw [timeline?_enroll_eq, Option.isSome_or, Bool.or_eq_true]
  by_cases hother : other = key <;> simp [hother]

/-- Changing a timeline changes what is found under its key. -/
theorem timeline?_updateTimeline (s : Server) (key : String) {f : Timeline → Timeline}
    (hf : ∀ t, (f t).key = t.key) (other : String) :
  (s.updateTimeline key f).timeline? other
    = (s.timeline? other).map fun t => if t.key = key then f t else t
  := by
  apply find?_map_key
  intro t
  split
  · apply hf
  · rfl

/-- Changing a timeline changes it if it is known, and no other one. -/
theorem timelineOf_updateTimeline (s : Server) {key : String} {f : Timeline → Timeline}
    (hf : ∀ t, (f t).key = t.key) (hknown : (s.timeline? key).isSome) (other : String) :
  (s.updateTimeline key f).timelineOf other
    = if other = key then f (s.timelineOf key) else s.timelineOf other
  := by
  have hkey : ∀ {other : String} {t : Timeline}, s.timeline? other = some t → t.key = other := by
    intro other t ht
    simpa using List.find?_some ht
  rw [timelineOf, timeline?_updateTimeline s key hf]
  split
  · rename_i hother
    subst hother
    obtain ⟨t, ht⟩ := Option.isSome_iff_exists.mp hknown
    simp [timelineOf, ht, hkey ht]
  · rename_i hother
    cases ht : s.timeline? other with
    | none => simp [timelineOf, ht]
    | some t => simp [timelineOf, ht, hkey ht, hother]

/-- `Agree ρ base base' s t`: the servers differ in what their journals held before, which is
`base` and `base'`, in the numbers of steps, which `ρ` translates, and in the timelines that are
known without having been started. -/
structure Agree (ρ : Nat → Nat) (base base' : List Entry) (s t : Server) : Prop where
  settings : s.settings = t.settings
  commands : s.commands = t.commands
  awaiting : s.awaiting = t.awaiting
  runs : s.runs = t.runs
  turns : s.turns = t.turns
  pending : s.pending = t.pending.map (·.renumber ρ)
  clock : s.clock = t.clock
  timelineOf : ∀ key, s.timelineOf key = t.timelineOf key
  known : ∀ key, (t.timeline? key).isSome → (s.timeline? key).isSome
  journal : ∃ later, s.journal = later.map (·.renumber ρ) ++ base ∧ t.journal = later ++ base'

namespace Agree

variable {ρ : Nat → Nat} {base base' : List Entry} {s t : Server} (h : Agree ρ base base' s t)

include h

/-! ### What servers that agree have in common -/

theorem currentRun? (key : String) :
  s.currentRun? key = t.currentRun? key
  := by
  have hcurrent : ∀ s : Server, s.currentRun? key = (s.timelineOf key).current := by
    intro s
    rw [Server.currentRun?, Server.timelineOf]
    cases s.timeline? key <;> rfl
  rw [hcurrent, hcurrent, h.timelineOf]

theorem runState (id : RunId) :
  s.runState id = t.runState id
  := by
  rw [Server.runState, h.runs, Server.runState]

theorem hasEnded (id : RunId) :
  s.hasEnded id = t.hasEnded id
  := by
  rw [Server.hasEnded, h.runs, Server.hasEnded]

theorem runName (id : RunId) :
  s.runName id = t.runName id
  := by
  rw [Server.runName, h.runs, Server.runName]

theorem isActive (key : String) :
  s.isActive key = t.isActive key
  := by
  unfold Server.isActive Server.isRunning
  rw [h.currentRun?]
  simp only [h.runState]

theorem isDue (p : Pending) :
  s.isDue (p.renumber ρ) = t.isDue p
  := by
  cases p with
  | stopping ticket asker id => apply h.hasEnded
  | finishing ticket id => apply h.hasEnded
  | stoppingAll ticket current rest count =>
    cases current with
    | none => rfl
    | some id => apply h.hasEnded

/-! ### Small changes -/

theorem record (fact : Fact) :
  Agree ρ base base' (s.record (fact.renumber ρ)) (t.record fact)
  where
  __ := h
  journal := by
    obtain ⟨later, hs, ht⟩ := h.journal
    use ⟨t.clock, fact⟩ :: later
    simp [Server.record, Entry.renumber, hs, ht, h.clock]

theorem log (note : Note) :
  Agree ρ base base' (s.log note) (t.log note)
  := h.record (.noted note)

theorem updateRun (id : RunId) (f : Run → Run) :
  Agree ρ base base' (s.updateRun id f) (t.updateRun id f)
  where
  __ := h
  runs := by rw [Server.updateRun, Server.updateRun, h.runs]

theorem yieldTurn (id : RunId) :
  Agree ρ base base' (s.yieldTurn id) (t.yieldTurn id)
  where
  __ := h
  turns := by rw [Server.yieldTurn, Server.yieldTurn, h.turns]

theorem setAwaiting (awaiting : List Awaiting) :
  Agree ρ base base' { s with awaiting } { t with awaiting }
  where
  __ := h
  awaiting := rfl

theorem setPending (pending : List Pending) :
  Agree ρ base base' { s with pending := pending.map (·.renumber ρ) } { t with pending }
  where
  __ := h
  pending := rfl

theorem setClock (time : Nat) :
  Agree ρ base base' (s.setClock time) (t.setClock time)
  where
  __ := h
  clock := rfl

theorem enroll (key : String) :
  Agree ρ base base' (s.enroll key) (t.enroll key)
  := by
  have hknown : ∀ other, ((t.enroll key).timeline? other).isSome →
      ((s.enroll key).timeline? other).isSome := by
    intro other
    rw [isSome_timeline?_enroll, isSome_timeline?_enroll]
    apply Or.imp_left (h.known other)
  have htimelineOf : ∀ other,
      (s.enroll key).timelineOf other = (t.enroll key).timelineOf other := by
    intro other
    rw [timelineOf_enroll, timelineOf_enroll, h.timelineOf]
  obtain ⟨timelines, heq⟩ := enroll_eq s key
  obtain ⟨timelines', heq'⟩ := enroll_eq t key
  rw [heq, heq'] at hknown htimelineOf ⊢
  exact { h with timelineOf := htimelineOf, known := hknown }

theorem updateTimeline {key : String} {f : Timeline → Timeline} (hf : ∀ t, (f t).key = t.key)
    (hknown : (t.timeline? key).isSome) :
  Agree ρ base base' (s.updateTimeline key f) (t.updateTimeline key f)
  where
  __ := h
  timelineOf := by
    intro other
    rw [timelineOf_updateTimeline s hf (h.known key hknown), timelineOf_updateTimeline t hf hknown,
      h.timelineOf, h.timelineOf]
  known := by
    intro other
    rw [timeline?_updateTimeline s key hf, timeline?_updateTimeline t key hf, Option.isSome_map,
      Option.isSome_map]
    apply h.known other

/-! ### Stops -/

theorem claim? (ticket : Ticket) (id : RunId) :
  Option.Rel (Agree ρ base base') (s.claim? (ticket.renumber ρ) id) (t.claim? ticket id)
  := by
  rw [Server.claim?, Server.claim?, h.runs]
  split
  · exact .none
  · rename_i run hrun
    by_cases hphase : run.phase = .draining false
    · have hupdate := h.updateRun id fun r => { r with phase := .draining true }
      simp only [hphase, if_true]
      apply Option.Rel.some
      apply log
      apply record _ (.claimed id (some ticket))
      split
      · apply hupdate.yieldTurn
      · apply hupdate
    · simp only [hphase, if_false]
      exact .none

theorem await (p : Pending) :
  Agree ρ base base' (s.await (p.renumber ρ)) (t.await p)
  where
  __ := h
  pending := by simp [Server.await, h.pending]

theorem stop (ticket : Ticket) (asker : Asker) (file : String) :
  Agree ρ base base' (s.stop (ticket.renumber ρ) asker file) (t.stop ticket asker file)
  := by
  rw [Server.stop, Server.stop]
  split
  · apply h.record (.answered ticket _)
  · rename_i key hkey
    rw [h.currentRun?]
    cases t.currentRun? key with
    | none => apply h.record (.answered ticket _)
    | some id =>
      have hclaim := h.claim? ticket id
      simp only [Option.bind_some]
      generalize s.claim? (ticket.renumber ρ) id = a at hclaim
      generalize t.claim? ticket id = b at hclaim
      cases hclaim with
      | none => apply h.record (.answered ticket _)
      | some hclaimed => apply hclaimed.await (.stopping ticket asker id)

theorem serve (i : Nat) :
  Agree ρ base base' (s.serve i) (t.serve i)
  := by
  have hi : s.pending[i]? = t.pending[i]?.map (·.renumber ρ) := by simp [h.pending]
  have herase : s.pending.eraseIdx i = (t.pending.eraseIdx i).map (·.renumber ρ) := by
    rw [h.pending, List.eraseIdx_map]
  have hset : ∀ p : Pending,
      s.pending.set i (p.renumber ρ) = (t.pending.set i p).map (·.renumber ρ) := by
    intro p
    rw [h.pending, List.map_set]
  have hdone := h.setPending (t.pending.eraseIdx i)
  rw [Server.serve, Server.serve, hi]
  cases t.pending[i]? with
  | none => exact h
  | some p =>
    simp only [Option.map_some, h.isDue, herase]
    split
    · exact h
    · cases p with
      | stopping ticket asker id =>
        simp only [Pending.renumber, h.runName]
        apply (hdone.log _).record (.answered ticket _)
      | finishing ticket id =>
        simp only [Pending.renumber, h.runState]
        apply hdone.record (.answered ticket _)
      | stoppingAll ticket current rest count =>
        cases current with
        | some id =>
          simp only [Pending.renumber, h.runName]
          have hput := h.setPending (t.pending.set i (.stoppingAll ticket none rest (count + 1)))
          rw [← hset] at hput
          apply hput.log
        | none =>
          cases rest with
          | nil =>
            simp only [Pending.renumber]
            apply record _ (.answered ticket _)
            split
            · apply hdone
            · apply hdone.log
          | cons id rest =>
            have hclaim := h.claim? ticket id
            simp only [Pending.renumber]
            generalize s.claim? (ticket.renumber ρ) id = a at hclaim
            generalize t.claim? ticket id = b at hclaim
            cases hclaim with
            | none =>
              have hput := h.setPending (t.pending.set i (.stoppingAll ticket none rest count))
              rw [← hset] at hput
              apply hput
            | @some s' t' hclaimed =>
              have hput := hclaimed.setPending
                (t'.pending.set i (.stoppingAll ticket (some id) rest count))
              rw [List.map_set, ← hclaimed.pending] at hput
              apply hput

/-! ### Calls -/

theorem register (c : Command) :
  Agree ρ base base' (s.register c) (t.register c)
  where
  __ := h
  commands := by rw [Server.register, Server.register, h.commands]

theorem expect (a : Awaiting) :
  Agree ρ base base' (s.expect a) (t.expect a)
  := by
  have hawaiting := h.setAwaiting (Awaiting.register t.awaiting a)
  rw [Server.expect, h.awaiting]
  apply hawaiting

theorem call (caller : Option Work) (c : Call) :
  Agree ρ base base' (s.call caller c) (t.call caller c)
  := by
  have hcalled := h.record (.called caller c)
  unfold Server.call react
  split
  · apply hcalled.expect
  · apply hcalled.stop ⟨none, _⟩
  · apply hcalled

theorem callCommand (caller : Option Work) (c : Command) (invocation : Invocation) :
  Agree ρ base base' (s.callCommand caller c invocation) (t.callCommand caller c invocation)
  := by
  unfold Server.callCommand
  simp only
  split
  · apply (h.log _).call
  · apply h.call

theorem respond? (caller : Option Work) (key : String) (invocation : Invocation) :
  Option.Rel (fun a b => Agree ρ base base' a.1 b.1 ∧ a.2 = b.2)
    (s.respond? caller key invocation) (t.respond? caller key invocation)
  := by
  rw [Server.respond?, Server.respond?, h.awaiting]
  cases Awaiting.take t.awaiting key with
  | none => exact .none
  | some taken =>
    obtain ⟨a, rest⟩ := taken
    exact .some ⟨(h.setAwaiting rest).call caller _, rfl⟩

theorem carryOut (work : Work) :
  Agree ρ base base' (s.carryOut work) (t.carryOut work)
  := by
  rw [Server.carryOut, Server.carryOut]
  split
  · exact h
  · apply h.callCommand
  · rename_i line key raw args haction
    have hrespond := h.respond? (some work) key { raw, args }
    generalize s.respond? (some work) key { raw, args } = a at hrespond
    generalize t.respond? (some work) key { raw, args } = b at hrespond
    cases hrespond with
    | none => apply h.log
    | some hcalled => apply hcalled.1

theorem failure? (work : Work) :
  s.failure? work = t.failure? work
  := by
  rw [Server.failure?, h.awaiting, Server.failure?]

/-! ### The work of a run -/

theorem setActivity (id : RunId) (activity : Activity) :
  Agree ρ base base' (s.setActivity id activity) (t.setActivity id activity)
  := h.updateRun id _

theorem conclude (work : Work) (error : Option StepError) :
  Agree ρ base base' (s.conclude work error) (t.conclude work error)
  := (h.record (.over work error)).setActivity _ _

theorem engage (work : Work) :
  Agree ρ base base' (s.engage work) (t.engage work)
  := by
  rw [Server.engage, Server.engage, h.clock]
  split
  · apply h.conclude
  · apply h.setActivity
  · apply (h.setActivity _ _).yieldTurn

theorem beginBody {run : Run} (hknown : (t.timeline? run.key).isSome) (id : RunId)
    (action : Action) :
  Agree ρ base base' (s.beginBody id run action) (t.beginBody id run action)
  := by
  rw [Server.beginBody, Server.beginBody]
  apply engage
  apply updateRun
  apply record _ (.began ⟨id, false, action⟩)
  apply log
  exact h.updateTimeline (f := fun t => { t with begun := t.begun + 1 }) (fun _ => rfl) hknown

theorem proceed {run : Run} (hknown : (t.timeline? run.key).isSome) (id : RunId) :
  Agree ρ base base' (s.proceed id run) (t.proceed id run)
  := by
  rw [Server.proceed, Server.proceed]
  split
  · split
    · apply ((h.record (.claimed id none)).log _).updateRun
    · apply h.beginBody hknown
  · rw [leaveBody, leaveBody]
    split
    · apply h.updateRun
    · apply (h.log _).updateRun
  · split
    · rename_i cancelled hphase _ hnext
      apply (h.updateRun id _).record (.published id (.finished run.key cancelled))
    · rename_i action hnext
      apply ((h.record (.began ⟨id, true, action⟩)).updateRun id _).engage
  · exact h

theorem handle (id : RunId) (run : Run) (action : Action) :
  Agree ρ base base' (s.handle id run action) (t.handle id run action)
  := by
  rw [Server.handle, Server.handle, h.failure?]
  apply ((h.setActivity id _).carryOut _).yieldTurn

theorem takeUp (id : RunId) (run : Run) (action : Action) (error : Option StepError) :
  Agree ρ base base' (s.takeUp id run action error) (t.takeUp id run action error)
  := by
  unfold Server.takeUp
  simp only
  split
  · apply h.conclude
  · rename_i e stopping hphase
    apply ((h.log _).conclude _ _).record (.published id (.failed run.key action.line e))
  · apply (h.log _).conclude

theorem work (ht : t.Reachable) (id : RunId) :
  Agree ρ base base' (s.work id) (t.work id)
  := by
  rw [Server.work, Server.work, h.runs]
  split
  · exact h
  · rename_i run hrun
    have hknown : (t.timeline? run.key).isSome := by
      obtain ⟨current, hcurrent, -⟩ := ht.kept.current_of_run id run hrun
      obtain ⟨known, hknown, -⟩ := Option.bind_eq_some_iff.mp hcurrent
      rw [hknown]
      rfl
    split
    · apply h.proceed hknown
    · apply h.handle
    · apply h.takeUp
    · simp only [h.clock]
      split
      · apply (h.log _).conclude
      · split
        · apply h.conclude
        · exact h

theorem step (ht : t.Reachable) (move : Move) :
  Agree ρ base base' (s.step move) (t.step move)
  := by
  cases move with
  | work id => apply h.work ht
  | serve i => apply h.serve

/-! ### Letting time pass -/

theorem load :
  s.load = t.load
  := by
  have hpending : ∀ p : Pending, pendingLoad (p.renumber ρ) = pendingLoad p := by
    intro p
    cases p <;> rfl
  rw [Server.load, Server.load, h.runs, h.pending, List.foldr_map]
  simp only [hpending]

theorem canWork (id : RunId) :
  s.canWork id = t.canWork id
  := by
  rw [Server.canWork, h.runs, h.clock, Server.canWork]

theorem moves :
  s.moves = t.moves
  := by
  have hserve : s.canServe = t.canServe := by
    funext i
    rw [Server.canServe, Server.canServe, h.pending, List.getElem?_map]
    cases t.pending[i]? with
    | none => rfl
    | some p => apply h.isDue
  have hwork : s.canWork = t.canWork := funext h.canWork
  rw [Server.moves, Server.moves, hserve, hwork, h.turns, h.pending, List.length_map]

omit h in
theorem settleIn (n : Nat) :
  ∀ {s t : Server}, Agree ρ base base' s t → t.Reachable →
    Agree ρ base base' (s.settleIn n) (t.settleIn n)
  := by
  induction n with
  | zero =>
    intro s t h ht
    exact h
  | succ n ih =>
    intro s t h ht
    rw [Server.settleIn, Server.settleIn, h.moves]
    split
    · exact h
    · rename_i move rest hmoves
      apply ih (h.step ht move) (ht.changes (step_changes t move))

theorem settle (ht : t.Reachable) :
  Agree ρ base base' s.settle t.settle
  := by
  rw [Server.settle, h.load]
  apply settleIn _ h ht

theorem deadlines :
  s.deadlines = t.deadlines
  := by
  rw [Server.deadlines, h.runs, Server.deadlines]

omit h in
theorem advanceIn (target n : Nat) :
  ∀ {s t : Server}, Agree ρ base base' s t → t.Reachable → t.moves = [] → t.clock ≤ target →
    Agree ρ base base' (s.advanceIn target n) (t.advanceIn target n)
  := by
  induction n with
  | zero =>
    intro s t h ht hmoves htarget
    apply h.setClock
  | succ n ih =>
    intro s t h ht hmoves htarget
    rw [Server.advanceIn, Server.advanceIn, h.deadlines]
    split
    · apply h.setClock
    · rename_i time htime
      obtain ⟨hmem, -⟩ := List.min?_eq_some_iff.mp htime
      obtain ⟨hdeadline, hle⟩ := List.mem_filter.mp hmem
      have hlater : (t.setClock time).Reachable :=
        ht.changes (setClock_changes t (Nat.le_of_lt (ht.clock_lt hmoves hdeadline)))
      apply ih ((h.setClock time).settle hlater) (hlater.changes (settle_changes _))
        (moves_settle _)
      simp only [clock_settle, Server.setClock]
      simpa using hle

theorem advance (ht : t.Reachable) (hmoves : t.moves = []) (milliseconds : Nat) :
  Agree ρ base base' (s.advance milliseconds) (t.advance milliseconds)
  := by
  rw [Server.advance, Server.advance, h.clock, h.load]
  apply advanceIn _ _ h ht hmoves (Nat.le_add_right _ _)

/-! ### Starts -/

theorem bodyOf (o : Opening) :
  s.bodyOf o = t.bodyOf o
  := by
  rw [Server.bodyOf, Server.scope, h.commands, h.settings, Server.bodyOf, Server.scope]

theorem cleanUpOf (o : Opening) :
  s.cleanUpOf o = t.cleanUpOf o
  := by
  rw [Server.cleanUpOf, Server.scope, h.commands, h.settings, Server.cleanUpOf, Server.scope]

theorem launch {o : Opening} (hknown : (t.timeline? o.key).isSome) (body cleanUp : List Action) :
  Agree ρ base base' (s.launch o body cleanUp) (t.launch o body cleanUp)
  := by
  have hruns : Agree ρ base base'
      { s with runs := s.runs ++ [{ key := o.key, body, cleanUp }] }
      { t with runs := t.runs ++ [{ key := o.key, body, cleanUp }] } :=
    { h with runs := by rw [h.runs] }
  have hturns := hruns.yieldTurn t.runs.length
  rw [Server.launch, Server.launch, h.runs]
  rw [h.runs] at hturns
  apply record _ (.published t.runs.length (.started o.key body.length))
  apply log
  apply hturns.updateTimeline (f := fun r => { r with current := some t.runs.length })
  · intro r
    rfl
  · apply hknown

theorem commit (o : Opening) :
  Agree ρ base base' (s.commit o).1 (t.commit o).1 ∧ (s.commit o).2 = (t.commit o).2
  := by
  have henrolled := h.enroll o.key
  have hknown : ((t.enroll o.key).timeline? o.key).isSome :=
    (isSome_timeline?_enroll t o.key o.key).mpr (.inr rfl)
  rw [Server.commit, Server.commit, h.isActive]
  split
  · exact ⟨h, rfl⟩
  · simp only [henrolled.bodyOf]
    split
    · exact ⟨henrolled.log _, rfl⟩
    · rename_i body hbody
      have hcompiled := henrolled.log (.compiled o.key body.length)
      rw [hcompiled.cleanUpOf, hcompiled.runs]
      split
      · exact ⟨hcompiled.log _, rfl⟩
      · exact ⟨hcompiled.launch hknown _ _, rfl⟩

theorem start (files : Files) (file : String) (args : List String) :
  Agree ρ base base' (s.start files file args).1 (t.start files file args).1 ∧
  (s.start files file args).2 = (t.start files file args).2
  := by
  rw [Server.start, Server.start, h.settings]
  split
  · exact ⟨h, rfl⟩
  · apply h.commit

/-! ### Requests -/

/-- Which timelines are running does not depend on which ones are known. -/
theorem running (hs : s.Kept) (ht : t.Kept) :
  s.running = t.running
  := by
  have hperm : s.running.Perm t.running := by
    apply (List.perm_ext_iff_of_nodup _ _).mpr
    · intro key
      rw [hs.mem_running_iff, ht.mem_running_iff, h.isActive]
    · apply (Text.sortBy_perm _ _).nodup_iff.mpr hs.nodup_running
    · apply (Text.sortBy_perm _ _).nodup_iff.mpr ht.nodup_running
  apply hperm.eq_of_pairwise _ (Text.pairwise_bytes_sort hs.nodup_running)
    (Text.pairwise_bytes_sort ht.nodup_running)
  intro key key' _ _ hlt hgt
  cases List.lt_asymm hlt hgt

theorem awaitEnd? (ticket : Ticket) (file : String) :
  Option.Rel (Agree ρ base base') (s.awaitEnd? (ticket.renumber ρ) file)
    (t.awaitEnd? ticket file)
  := by
  have hcurrent : s.currentRun? = t.currentRun? := funext h.currentRun?
  rw [Server.awaitEnd?, Server.awaitEnd?, hcurrent]
  cases (Path.key? file).bind t.currentRun? with
  | none => exact .none
  | some id => exact .some (h.await (.finishing ticket id))

theorem stopEach (ticket : Ticket) (ids : List RunId) :
  Agree ρ base base' (s.stopEach (ticket.renumber ρ) ids) (t.stopEach ticket ids)
  := h.await (.stoppingAll ticket none ids 0)

theorem stopAll (ticket : Ticket) :
  Agree ρ base base' (s.stopAll (ticket.renumber ρ)) (t.stopAll ticket)
  := by
  have hcurrent : s.isCurrent = t.isCurrent := by
    funext id
    rw [Server.isCurrent, h.runName, h.currentRun?, Server.isCurrent]
  rw [Server.stopAll, Server.stopAll, Server.currentRuns, Server.currentRuns, h.runs, hcurrent]
  apply h.stopEach

theorem execute (hs : s.Kept) (ht : t.Kept) (ticket : Ticket) (files : Files) (actor : Actor)
    (args : List String) :
  Agree ρ base base' (s.execute (ticket.renumber ρ) files actor args)
    (t.execute ticket files actor args)
  := by
  unfold Server.execute
  simp only
  split
  · apply (h.log _).record (.answered ticket _)
  · generalize Request.ofArgs args = request
    cases request with
    | start file args =>
      obtain ⟨hstarted, hresult⟩ := h.start files file args
      rw [grant, grant]
      simp only [hresult]
      apply hstarted.record (.answered ticket _)
    | stop file => apply h.stop
    | list =>
      rw [grant, grant, h.running hs ht]
      apply h.record (.answered ticket _)
    | unclear file => apply h.record (.answered ticket _)

theorem callEach (invocation : Invocation) (found : List Command) :
  Agree ρ base base' (s.callEach invocation found).1 (t.callEach invocation found).1 ∧
  (s.callEach invocation found).2 = (t.callEach invocation found).2
  := by
  induction found generalizing s t with
  | nil => exact ⟨h, rfl⟩
  | cons c rest ih =>
    obtain ⟨hcalled, houtcomes⟩ := ih (h.callCommand none c invocation)
    rw [Server.callEach, Server.callEach]
    exact ⟨hcalled, congrArg (c.behaviour.outcome :: ·) houtcomes⟩

/-! ### Where the journals begin -/

/-- What servers that agree have written to their journals so far does not matter. -/
theorem rebase :
  Agree ρ s.journal t.journal s t
  where
  __ := h
  journal := ⟨[], rfl, rfl⟩

/-- What only one of them writes to its journal does not matter either. -/
theorem record_left (fact : Fact) :
  Agree ρ (s.record fact).journal t.journal (s.record fact) t
  where
  __ := h
  journal := ⟨[], rfl, rfl⟩

omit h in
/-- A server agrees with itself if the requests that wait keep their numbers. -/
theorem self (hpending : s.pending = s.pending.map (·.renumber ρ)) :
  Agree ρ s.journal s.journal s s
  := ⟨rfl, rfl, rfl, rfl, rfl, hpending, rfl, fun _ => rfl, fun _ => id, [], rfl, rfl⟩

omit h in
/-- A server agrees with itself if all steps keep their numbers. -/
theorem self_id (s : Server) :
  Agree id [] [] s s
  where
  __ : Agree id s.journal s.journal s s := .self (by simp)
  journal := ⟨s.journal, by simp, by simp⟩

end Agree

end Server

end CommandTimelines
