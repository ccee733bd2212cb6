import CommandTimelines.Proofs.Agreement
import CommandTimelines.Proofs.Indifference

/-!
# Servers with more commands

A server *mirrors* another one (`Server.Mirrors`) if it differs in nothing but in commands that were
put in between those of the other one, and in facts that nobody is told of, such as notes. The
servers agree (`Server.Agree`) as soon as they are given the same commands. So whatever is done to
both of them, as long as nothing is started, the server goes on mirroring the other one: nothing
but a start looks at the commands, and a direct call, which may call some that were put in. That
makes no difference if these are *inert*, that is, do nothing to the server.
-/

namespace CommandTimelines

open Host Script Operator

/-- Whether a handler does nothing to the server: it awaits no response and stops no timeline. -/
def Host.Behaviour.isInert : Behaviour → Bool
  | .ask _ _ => false
  | .stop => false
  | _ => true

/-! ### Commands put in between others -/

/-- `Command.Widened put commands commands'`: the commands `commands'` are those in `commands`, in
their order, with some that are in `put` in between. -/
inductive Host.Command.Widened (put : List Command) : List Command → List Command → Prop
  | nil : Widened put [] []
  | keep (c : Command) {commands commands' : List Command} (h : Widened put commands commands') :
      Widened put (c :: commands) (c :: commands')
  | put {c : Command} (hc : c ∈ put) {commands commands' : List Command}
      (h : Widened put commands commands') : Widened put commands (c :: commands')

namespace Host.Command.Widened

variable {put commands commands' : List Command}

theorem refl (put commands : List Command) :
  Widened put commands commands
  := by
  induction commands with
  | nil => exact .nil
  | cons c rest ih => exact .keep c ih

/-- More commands may have been put in than are found. -/
theorem mono {put' : List Command} (hput : put ⊆ put') (h : Widened put commands commands') :
  Widened put' commands commands'
  := by
  induction h with
  | nil => exact .nil
  | keep c _ ih => exact .keep c ih
  | put hc _ ih => exact .put (hput hc) ih

theorem append {more more' : List Command} (h : Widened put commands commands')
    (hmore : Widened put more more') :
  Widened put (commands ++ more) (commands' ++ more')
  := by
  induction h with
  | nil => exact hmore
  | keep c _ ih => exact .keep c ih
  | put hc _ ih => exact .put hc ih

theorem filter (p : Command → Bool) (h : Widened put commands commands') :
  Widened (put.filter p) (commands.filter p) (commands'.filter p)
  := by
  induction h with
  | nil => exact .nil
  | keep c _ ih =>
    by_cases hp : p c
    · simpa only [List.filter_cons_of_pos hp] using .keep c ih
    · simpa only [List.filter_cons_of_neg hp] using ih
  | put hc _ ih =>
    rename_i c _ _ _
    by_cases hp : p c
    · simpa only [List.filter_cons_of_pos hp] using .put (List.mem_filter.mpr ⟨hc, hp⟩) ih
    · simpa only [List.filter_cons_of_neg hp] using ih

end Host.Command.Widened

/-! ### What is told -/

/-- Whether an entry tells of a run or answers a request. -/
def Entry.isTold (entry : Entry) : Bool := entry.fact.run?.isSome || entry.answer?.isSome

@[simp]
theorem Entry.isTold_renumber (ρ : Nat → Nat) (entry : Entry) :
  (entry.renumber ρ).isTold = entry.isTold
  := by
  obtain ⟨time, fact⟩ := entry
  cases fact <;> rfl

@[simp]
theorem Entry.isOf_renumber (ρ : Nat → Nat) (id : RunId) (entry : Entry) :
  (entry.renumber ρ).isOf id = entry.isOf id
  := by
  obtain ⟨time, fact⟩ := entry
  cases fact <;> rfl

theorem Entry.filter_isTold_renumber (ρ : Nat → Nat) (entries : List Entry) :
  (entries.map (·.renumber ρ)).filter (·.isTold) = (entries.filter (·.isTold)).map (·.renumber ρ)
  := by
  rw [List.filter_map]
  simp only [Function.comp_def, isTold_renumber]

/-- What tells of one run tells of a run. -/
theorem Entry.isTold_of_isOf {id : RunId} {entry : Entry} (h : entry.isOf id) :
  entry.isTold
  := by
  simp only [isOf, beq_iff_eq] at h
  simp [isTold, h]

namespace Server

/-- What has come about in runs, and the answers to requests, earliest first. -/
def told (s : Server) : List Entry := s.history.filter (·.isTold)

theorem historyOf_eq_filter_told (s : Server) (id : RunId) :
  s.historyOf id = s.told.filter (·.isOf id)
  := by
  rw [told, List.filter_filter, historyOf]
  congr 1
  funext entry
  cases hof : entry.isOf id with
  | true => simp [Entry.isTold_of_isOf hof]
  | false => rfl

/-- `Mirrors ρ put s t`: the server `s` differs from `t` in the numbers of steps, which `ρ`
translates, in commands in `put` that it has more, and in what nobody is told of. -/
structure Mirrors (ρ : Nat → Nat) (put : List Command) (s t : Server) : Prop where
  agree : s.Agree ρ s.journal t.journal (t.withCommands s.commands)
  told : s.told = t.told.map (·.renumber ρ)
  commands : Command.Widened put t.commands s.commands

/-- An inert handler does nothing. -/
theorem react_of_isInert (s : Server) {behaviour : Behaviour} (h : behaviour.isInert)
    (invocation : Invocation) :
  s.react invocation behaviour = s
  := by
  cases behaviour with
  | ask key answer => cases h
  | stop => cases h
  | _ => rfl

/-- A server with other commands comes about by changes if it does with its own ones. -/
theorem Reachable.withCommands {t : Server} (h : t.Reachable) (commands : List Command) :
  (t.withCommands commands).Reachable
  := h.change (.aside commands t.awaiting (List.Subset.refl _) (Nat.le_refl _))

/-- A server mirrors itself if the steps that its journal and its requests tell of keep their
numbers. -/
theorem Mirrors.self {ρ : Nat → Nat} {s : Server} (h : s.Agree ρ [] [] s) :
  s.Mirrors ρ [] s
  where
  agree := h.rebase
  told := by
    obtain ⟨later, hjournal, hjournal'⟩ := h.journal
    rw [List.append_nil] at hjournal hjournal'
    have hhistory : s.history = s.history.map (·.renumber ρ) := by
      rw [history, List.map_reverse, hjournal', ← hjournal, hjournal']
    have htold := congrArg (List.filter (·.isTold)) hhistory
    rwa [Entry.filter_isTold_renumber] at htold
  commands := .refl _ _

namespace Mirrors

variable {ρ : Nat → Nat} {put : List Command} {s t : Server} (h : s.Mirrors ρ put t)

include h

/-- Servers that agree again after both have gone on have told the same meanwhile. -/
theorem of_agree {s' t' : Server}
    (hagree : s'.Agree ρ s.journal t.journal (t'.withCommands s.commands))
    (hcommands : t'.commands = t.commands) :
  s'.Mirrors ρ put t'
  := by
  have hcommands' : s'.commands = s.commands := hagree.commands
  obtain ⟨later, hjournal, hjournal'⟩ := hagree.journal
  replace hjournal' : t'.journal = later ++ t.journal := hjournal'
  constructor
  case agree =>
    rw [hcommands']
    apply hagree.rebase
  case told =>
    have htold := h.told
    simp only [Server.told, history] at htold ⊢
    rw [hjournal, hjournal', List.reverse_append, List.reverse_append, List.filter_append,
      List.filter_append, List.map_append, htold, ← List.map_reverse,
      Entry.filter_isTold_renumber]
  case commands =>
    rw [hcommands, hcommands']
    apply h.commands

/-- An operation that does not look at the commands. -/
theorem follow {s' : Server} {f : Server → Server}
    (hf : ∀ commands, f (t.withCommands commands) = (f t).withCommands commands)
    (hagree : s'.Agree ρ s.journal t.journal (f (t.withCommands s.commands))) :
  s'.Mirrors ρ put (f t)
  := by
  rw [hf] at hagree
  apply h.of_agree hagree (commands_eq t hf)

/-! ### Small changes -/

theorem record (fact : Fact) :
  (s.record (fact.renumber ρ)).Mirrors ρ put (t.record fact)
  := h.follow (f := fun t => t.record fact) (fun _ => rfl) (h.agree.record fact)

theorem log (note : Note) :
  (s.log note).Mirrors ρ put (t.log note)
  := h.record (.noted note)

/-- What nobody is told of makes no difference. -/
theorem record_left {fact : Fact} (hfact : (Entry.mk s.clock fact).isTold = false) :
  (s.record fact).Mirrors ρ put t
  where
  agree := h.agree.record_left fact
  told := by
    rw [← h.told]
    simp [Server.told, history, Server.record, hfact]
  commands := h.commands

theorem expect (a : Awaiting) :
  (s.expect a).Mirrors ρ put (t.expect a)
  := h.follow (f := fun t => t.expect a) (fun _ => rfl) (h.agree.expect a)

theorem setClock (time : Nat) :
  (s.setClock time).Mirrors ρ put (t.setClock time)
  := h.follow (f := fun t => t.setClock time) (fun _ => rfl) (h.agree.setClock time)

/-! ### Requests -/

theorem stop (ticket : Ticket) (asker : Asker) (file : String) :
  (s.stop (ticket.renumber ρ) asker file).Mirrors ρ put (t.stop ticket asker file)
  := h.follow (f := fun t => t.stop ticket asker file)
    (fun commands => stop_withCommands t commands ticket asker file)
    (h.agree.stop ticket asker file)

theorem stopEach (ticket : Ticket) (ids : List RunId) :
  (s.stopEach (ticket.renumber ρ) ids).Mirrors ρ put (t.stopEach ticket ids)
  := h.follow (f := fun t => t.stopEach ticket ids) (fun _ => rfl) (h.agree.stopEach ticket ids)

theorem stopAll (ticket : Ticket) :
  (s.stopAll (ticket.renumber ρ)).Mirrors ρ put (t.stopAll ticket)
  := h.follow (f := fun t => t.stopAll ticket) (fun _ => rfl) (h.agree.stopAll ticket)

theorem awaitEnd? (ticket : Ticket) (file : String) :
  Option.Rel (Mirrors ρ put) (s.awaitEnd? (ticket.renumber ρ) file) (t.awaitEnd? ticket file)
  := by
  have hcurrent : s.currentRun? = t.currentRun? := funext h.agree.currentRun?
  rw [Server.awaitEnd?, Server.awaitEnd?, hcurrent]
  cases (Path.key? file).bind t.currentRun? with
  | none => exact .none
  | some id =>
    exact .some (h.follow (f := fun t => t.await (.finishing ticket id)) (fun _ => rfl)
      (h.agree.await (.finishing ticket id)))

/-- A request of an operator that starts nothing. -/
theorem execute (hs : s.Reachable) (ht : t.Reachable) (ticket : Ticket) (files files' : Files)
    {actor : Actor} {args : List String}
    (hstart : ∀ file rest, Request.ofArgs args = .start file rest →
      (Request.start file rest).forbidden? actor ≠ none) :
  (s.execute (ticket.renumber ρ) files actor args).Mirrors ρ put
    (t.execute ticket files' actor args)
  := by
  unfold Server.execute
  simp only
  generalize Request.ofArgs args = request at hstart
  split
  · rename_i file hforbidden
    apply (h.log _).record (.answered ticket _)
  · rename_i hallowed
    cases request with
    | start file rest => exact absurd hallowed (hstart file rest rfl)
    | stop file => apply h.stop
    | list =>
      have hrunning : s.running = t.running :=
        h.agree.running hs.kept (ht.withCommands s.commands).kept
      rw [grant, grant, hrunning]
      apply h.record (.answered ticket _)
    | unclear file => apply h.record (.answered ticket _)

/-! ### Calls -/

theorem callCommand (c : Command) (invocation : Invocation) :
  (s.callCommand none c invocation).Mirrors ρ put (t.callCommand none c invocation)
  := h.follow (f := fun t => t.callCommand none c invocation)
    (fun commands => callCommand_withCommands t commands none c invocation)
    (h.agree.callCommand none c invocation)

/-- The call of an inert command makes no difference. -/
theorem callCommand_left {c : Command} (hc : c.behaviour.isInert) (invocation : Invocation) :
  (s.callCommand none c invocation).Mirrors ρ put t
  := by
  have hcall : ∀ s : Server, s.call none ⟨.command c, invocation⟩
      = s.record (.called none ⟨.command c, invocation⟩) :=
    fun s => react_of_isInert (s.record _) hc invocation
  unfold Server.callCommand
  simp only [hcall]
  split
  · have hlogged : (s.log (.executed invocation.actor.name invocation.raw)).Mirrors ρ put t :=
      h.record_left rfl
    apply hlogged.record_left rfl
  · apply h.record_left rfl

omit h in
/-- Commands are called, and in one server some inert ones in between. -/
theorem callEach {more found found' : List Command} (invocation : Invocation)
    (hinert : ∀ c ∈ more, c.behaviour.isInert) (hfound : Command.Widened more found found') :
  ∀ {s t : Server}, s.Mirrors ρ put t →
    (s.callEach invocation found').1.Mirrors ρ put (t.callEach invocation found).1
  := by
  induction hfound with
  | nil =>
    intro s t h
    exact h
  | keep c _ ih =>
    intro s t h
    apply ih (h.callCommand c invocation)
  | put hc _ ih =>
    intro s t h
    apply ih (h.callCommand_left (hinert _ hc) invocation)

theorem respond? (key : String) (invocation : Invocation) :
  Option.Rel (fun a b => a.1.Mirrors ρ put b.1 ∧ a.2 = b.2)
    (s.respond? none key invocation) (t.respond? none key invocation)
  := by
  have hrespond := h.agree.respond? none key invocation
  have hown := respond?_withCommands t t.commands none key invocation
  replace hown : t.respond? none key invocation = _ := hown
  rw [respond?_withCommands] at hrespond
  generalize s.respond? none key invocation = a at hrespond
  generalize t.respond? none key invocation = b at hrespond hown
  cases b with
  | none =>
    cases hrespond
    exact .none
  | some b =>
    cases hrespond with
    | some hresponded =>
      obtain ⟨hagree, houtcome⟩ := hresponded
      have hcommands : b.1.commands = t.commands :=
        congrArg (fun b => b.1.commands) (Option.some.inj hown)
      exact .some ⟨h.of_agree hagree hcommands, houtcome⟩

/-! ### Commands -/

/-- A command is registered with both servers. -/
theorem register (c : Command) :
  (s.register c).Mirrors ρ put (t.register c)
  where
  agree := (h.agree.register c).rebase
  told := h.told
  commands := h.commands.append (.keep c .nil)

/-- Commands are put in. -/
theorem withCommands (more : List Command) :
  (s.withCommands (s.commands ++ more)).Mirrors ρ (put ++ more) t
  where
  agree := { h.agree with commands := rfl }
  told := h.told
  commands := by
    have hmore : ∀ rest ⊆ more, Command.Widened (put ++ more) [] rest := by
      intro rest hrest
      induction rest with
      | nil => exact .nil
      | cons c rest ih =>
        rw [List.cons_subset] at hrest
        exact .put (List.mem_append_right _ hrest.1) (ih hrest.2)
    have hwidened := (h.commands.mono (List.subset_append_left put more)).append
      (hmore more (List.Subset.refl _))
    rwa [List.append_nil] at hwidened

/-! ### Letting time pass -/

theorem step (ht : t.Reachable) (move : Move) :
  (s.step move).Mirrors ρ put (t.step move)
  := h.follow (f := fun t => t.step move) (fun commands => step_withCommands t commands move)
    (h.agree.step (ht.withCommands s.commands) move)

theorem settle (ht : t.Reachable) :
  s.settle.Mirrors ρ put t.settle
  := h.follow (fun commands => settle_withCommands t commands)
    (h.agree.settle (ht.withCommands s.commands))

theorem moves :
  s.moves = t.moves
  := h.agree.moves.trans (moves_withCommands t s.commands)

theorem advance (ht : t.Reachable) (hmoves : t.moves = []) (milliseconds : Nat) :
  (s.advance milliseconds).Mirrors ρ put (t.advance milliseconds)
  := by
  rw [← moves_withCommands t s.commands] at hmoves
  exact h.follow (f := fun t => t.advance milliseconds)
    (fun commands => advance_withCommands t commands milliseconds)
    (h.agree.advance (ht.withCommands s.commands) hmoves milliseconds)

end Mirrors

end Server

end CommandTimelines
