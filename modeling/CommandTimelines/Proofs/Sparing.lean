import CommandTimelines.Proofs.Dealings
import CommandTimelines.Proofs.Edits
import CommandTimelines.Proofs.Inertness

/-!
# Handlers that stop nothing

A handler *spares* the timelines if it stops none, and neither does whoever it asks to answer. If
only such commands are ever registered, and only such handlers ever await responses
(`Session.Sparing`), then no run and no call can stop a timeline any more (`Server.Sparing`). The
work of a run then leaves alone whatever has to do with requests and with the answers to them
(`Server.Apart.work`).
-/

namespace CommandTimelines

open Host Script

/-- Whether a handler stops no timeline, and whoever it asks to answer stops none either. -/
def Host.Behaviour.spares : Behaviour → Bool
  | .ask _ answer => answer.spares
  | .stop => false
  | _ => true

/-- Whether an action calls no command that may stop a timeline. -/
def Script.Action.Spares : Action → Prop
  | .invoke _ _ command _ _ _ => command.behaviour.spares = true
  | _ => True

/-- A server in which nothing that a run or a command calls stops a timeline. -/
structure Server.Sparing (s : Server) : Prop where
  awaiting : ∀ a ∈ s.awaiting, a.behaviour.spares
  commands : ∀ c ∈ s.commands, c.behaviour.spares
  scripts : ∀ script ∈ s.scripts, ∀ action ∈ script.2.1 ++ script.2.2, action.Spares

/-- Whether what happens registers no handler that may stop a timeline. -/
def Happening.Spares : Happening → Prop
  | .perform _ (.register command) => command.behaviour.spares = true
  | .perform _ (.await response) => response.behaviour.spares = true
  | _ => True

/-- The sessions that come about as sessions do, without any handler that may stop a timeline. -/
inductive Session.Sparing : Session → Prop
  | new (files : Files) (settings : Settings) {commands : List Command} {awaiting : List Awaiting}
      (hcommands : ∀ c ∈ commands, c.behaviour.spares)
      (hawaiting : ∀ a ∈ awaiting, a.behaviour.spares) :
      Sparing { files, server := { settings, commands, awaiting } }
  | happen {session : Session} (h : Sparing session) {x : Happening} (hx : x.Spares) :
      Sparing (session.happen x)

/-! ### Handlers that are registered -/

/-- A handler that awaits a response after some dealings did so before, or was registered by one of
them. -/
theorem Host.Deals.mem_or_registered {table table' : List Awaiting} {history : List Dealing}
    (h : Host.Deals table history table') :
  ∀ a ∈ table', a ∈ table ∨ .register a ∈ history
  := by
  induction h with
  | nil =>
    intro a ha
    exact .inl ha
  | @register history table' _ new ih =>
    intro a ha
    rcases List.mem_append.mp ha with hold | hnew
    · apply (ih a (List.mem_of_mem_filter hold)).imp_right
      exact List.mem_append_left _
    · rw [List.mem_singleton.mp hnew]
      exact .inr (List.mem_append_right _ (List.mem_singleton_self _))
  | @take history table' rest _ key b htake ih =>
    intro a ha
    rw [(Awaiting.of_take htake).2.2] at ha
    apply (ih a (List.mem_of_mem_filter ha)).imp_right
    exact List.mem_append_left _
  | miss _ htake ih =>
    intro a ha
    apply (ih a ha).imp_right
    exact List.mem_append_left _

/-- What a sparing handler registers is sparing. -/
theorem Host.Behaviour.spares_of_registers {behaviour : Behaviour} {invocation : Invocation}
    (h : behaviour.spares) {a : Awaiting} (ha : .register a ∈ behaviour.registers invocation) :
  a.behaviour.spares
  := by
  cases behaviour with
  | ask key answer =>
    obtain rfl := Dealing.register.inj (List.mem_singleton.mp ha)
    exact h
  | _ => cases ha

namespace Server.Sparing

variable {s : Server} (h : s.Sparing)

include h

/-- The action that a run has at hand stops no timeline. -/
theorem of_action? (hs : s.Reachable) {id : RunId} {run : Run} (hrun : s.runs[id]? = some run)
    {action : Action} (haction : run.activity.action? = some action) :
  action.Spares
  := by
  apply h.scripts run.script (List.mem_map_of_mem (List.mem_of_getElem? hrun))
  exact hs.mem_of_action? hrun haction

theorem responding {key : String} {invocation : Invocation} {a : Awaiting}
    (ha : .register a ∈ s.responding key invocation) :
  a.behaviour.spares
  := by
  rw [Server.responding] at ha
  split at ha
  · cases List.mem_singleton.mp ha
  · rename_i b rest htake
    rcases List.mem_cons.mp ha with hfirst | ha
    · cases hfirst
    · exact Behaviour.spares_of_registers (h.awaiting b (Awaiting.of_take htake).1) ha

theorem working (hs : s.Reachable) {id : RunId} {a : Awaiting} (ha : .register a ∈ s.working id) :
  a.behaviour.spares
  := by
  rw [Server.working] at ha
  split at ha
  · cases ha
  · rename_i run hrun
    split at ha
    · rename_i action hcalling
      have hspares := h.of_action? hs hrun (congrArg Activity.action? hcalling)
      cases action with
      | delay line milliseconds => cases ha
      | invoke line name c raw silent args => exact Behaviour.spares_of_registers hspares ha
      | deliver line key raw args => exact h.responding ha
    · cases ha

end Server.Sparing

namespace Server

variable {s : Server}

/-! ### Scripts that stop nothing -/

/-- Whether no action of a run stops a timeline, as long as no command does. -/
def SparingScripts (s : Server) : Prop :=
  (∀ c ∈ s.commands, c.behaviour.spares) →
    ∀ script ∈ s.scripts, ∀ action ∈ script.2.1 ++ script.2.2, action.Spares

/-- A start compiles scripts that stop nothing from commands that stop nothing. -/
theorem sparingScripts_commit (s : Server) (o : Opening) :
  SparingScripts (s.commit o).1 ↔ s.SparingScripts
  := by
  have hcommands : (s.commit o).1.commands = s.commands := aloof_commands.commit s o
  rw [SparingScripts, SparingScripts, hcommands]
  have hcommitted := s.committed o
  generalize (s.commit o).1 = s' at hcommitted
  generalize (s.commit o).2 = result at hcommitted
  cases hcommitted with
  | active hactive => rfl
  | declined notes hidle hfault =>
    have hscripts := s.scripts_enroll o.key
    rw [scripts] at hscripts ⊢
    rw [hscripts]
  | launched hidle hbody hcleanUp hscripts =>
    rw [hscripts]
    constructor
    · intro h hspare script hscript
      exact h hspare script (List.mem_append_left _ hscript)
    · intro h hspare script hscript
      rcases List.mem_append.mp hscript with hold | hnew
      · exact h hspare script hold
      · rw [List.mem_singleton.mp hnew]
        have hinvoke : ∀ c ∈ s.commands, ∀ number name raw silent args,
            (Action.invoke number name c raw silent args).Spares :=
          fun c hc _ _ _ _ _ => hspare c hc
        exact List.forall_mem_append.mpr
          ⟨all_bodyOf (fun _ _ => trivial) (fun _ _ _ _ => trivial) hinvoke hbody,
            all_cleanUpOf (fun _ _ => trivial) (fun _ _ _ _ => trivial) hinvoke hcleanUp⟩

theorem steady_sparingScripts :
  Steady SparingScripts
  := by
  have hboth : Steady fun s => (s.commands, s.scripts) := by
    constructor
    case updateRun =>
      intro s id f hf
      exact congrArg (Prod.mk s.commands) (steady_scripts.updateRun s id hf)
    all_goals
      intros
      rfl
  exact hboth.map fun view => (∀ c ∈ view.1, c.behaviour.spares) →
    ∀ script ∈ view.2, ∀ action ∈ script.2.1 ++ script.2.2, action.Spares

theorem aloof_sparingScripts :
  Aloof SparingScripts
  := steady_sparingScripts.aloof (fun s o => propext (sparingScripts_commit s o)) fun _ _ _ => rfl

end Server

/-! ### Whatever happens -/

namespace Session

variable {session : Session}

/-- What looks neither at requests nor at the clock, and is changed by no operation but the
registering of a command, is left as it is by whatever happens besides. -/
theorem happen_of_steady {α : Type} {view : Server → α} (hsteady : Server.Steady view)
    (haloof : Server.Aloof view)
    (hpending : ∀ (s : Server) pending, view { s with pending } = view s)
    (hclock : ∀ (s : Server) clock, view { s with clock } = view s) {x : Happening}
    (hregister : ∀ index c, x ≠ .perform index (.register c)) :
  view (session.happen x).server = view session.server
  := by
  cases x with
  | perform index step =>
    apply perform_of_aloof haloof
    · rintro c rfl
      exact absurd rfl (hregister index c)
    · intro _
      exact hpending session.server _
  | commit opening => exact haloof.commit session.server opening
  | commitFor ticket file opening => exact (haloof.answer ..).trans (haloof.commit ..)
  | stopEach ticket ids => exact hpending session.server _
  | move move => exact hsteady.step session.server hpending move
  | pass milliseconds => exact hclock session.server _

theorem commands_happen {x : Happening} (hregister : ∀ index c, x ≠ .perform index (.register c)) :
  (session.happen x).server.commands = session.server.commands
  := by
  have hsteady : Server.Steady (·.commands) := by
    constructor <;> intros <;> rfl
  exact happen_of_steady hsteady Server.aloof_commands (fun _ _ => rfl) (fun _ _ => rfl) hregister

/-- What happens registers handlers that stop nothing if it says so of those that it brings. -/
theorem spares_of_dealings (h : session.server.Sparing) (hs : session.Reachable) {x : Happening}
    (hx : x.Spares) {a : Awaiting} (ha : .register a ∈ session.dealings x) :
  a.behaviour.spares
  := by
  cases x with
  | perform index step =>
    cases step with
    | await response =>
      rw [Dealing.register.inj (List.mem_singleton.mp ha)]
      exact hx
    | call name invocation =>
      obtain ⟨c, hc, ha⟩ := List.mem_flatMap.mp ha
      exact Behaviour.spares_of_registers (h.commands c (List.mem_of_mem_filter hc)) ha
    | respond key invocation => exact h.responding ha
    | _ => cases ha
  | move move =>
    cases move with
    | work id => exact h.working hs.server ha
    | serve i => cases ha
  | _ => cases ha

/-- A server in which nothing stops a timeline stays so, if no handler comes that may stop one. -/
theorem sparing_happen (h : session.server.Sparing) (hs : session.Reachable) {x : Happening}
    (hx : x.Spares) :
  (session.happen x).server.Sparing
  := by
  have hawaiting : ∀ a ∈ (session.happen x).server.awaiting, a.behaviour.spares := by
    intro a ha
    rcases (session.deals_happen x).table.mem_or_registered a ha with hold | hnew
    · exact h.awaiting a hold
    · exact spares_of_dealings h hs hx hnew
  by_cases hregister : ∃ index c, x = .perform index (.register c)
  · obtain ⟨index, c, rfl⟩ := hregister
    refine ⟨hawaiting, ?_, h.scripts⟩
    intro d hd
    rcases List.mem_append.mp hd with hold | hnew
    · exact h.commands d hold
    · rw [List.mem_singleton.mp hnew]
      exact hx
  · simp only [not_exists] at hregister
    have hcommands : (session.happen x).server.commands = session.server.commands :=
      commands_happen hregister
    have hscripts : (session.happen x).server.SparingScripts = session.server.SparingScripts :=
      happen_of_steady Server.steady_sparingScripts Server.aloof_sparingScripts
        (fun _ _ => rfl) (fun _ _ => rfl) hregister
    have hspare : ∀ c ∈ (session.happen x).server.commands, c.behaviour.spares := by
      rw [hcommands]
      exact h.commands
    exact ⟨hawaiting, hspare, hscripts.mpr (fun _ => h.scripts) hspare⟩

namespace Sparing

theorem reachable (h : session.Sparing) :
  session.Reachable
  := by
  induction h with
  | new files settings hcommands hawaiting => exact .new files settings _ _
  | happen _ _ ih => exact ih.happen _

theorem server (h : session.Sparing) :
  session.server.Sparing
  := by
  induction h with
  | new files settings hcommands hawaiting => exact ⟨hawaiting, hcommands, List.forall_mem_nil _⟩
  | happen h hx ih => exact sparing_happen ih h.reachable hx

end Sparing

end Session

/-! ### What the work of runs leaves alone -/

namespace Server

variable {s : Server}

/-- A handler that stops nothing at most registers another one. -/
theorem exists_react_eq (s : Server) (invocation : Invocation) {behaviour : Behaviour}
    (h : behaviour.spares) :
  ∃ awaiting, s.react invocation behaviour = { s with awaiting }
  := by
  cases behaviour with
  | ask key answer => exact ⟨_, rfl⟩
  | stop => cases h
  | _ => exact ⟨s.awaiting, rfl⟩

variable {α : Type} {view : Server → α}
  (hawaiting : ∀ (s : Server) awaiting, view { s with awaiting } = view s)
  (hcalled : ∀ (s : Server) caller call, view (s.record (.called caller call)) = view s)

include hawaiting hcalled

/-- A call of a handler that stops nothing leaves alone what looks neither at handlers nor at
calls. -/
theorem call_of_spares (s : Server) (caller : Option Work) {c : Call}
    (h : c.target.behaviour.spares) :
  view (s.call caller c) = view s
  := by
  obtain ⟨awaiting, heq⟩ := exists_react_eq (s.record (.called caller c)) c.invocation h
  rw [call, heq, hawaiting, hcalled]

namespace Apart

variable (h : Apart view)

include h

theorem carryOut (hs : s.Sparing) {work : Work} (hspares : work.action.Spares) :
  view (s.carryOut work) = view s
  := by
  rw [Server.carryOut]
  split
  · rfl
  · rename_i line name c raw silent args haction
    rw [haction] at hspares
    rw [callCommand, Bool.and_false]
    exact call_of_spares hawaiting hcalled s (some work) hspares
  · split
    · exact h.log s _
    · rename_i s' outcome hrespond
      obtain ⟨⟨a, rest⟩, htake, heq⟩ := Option.map_eq_some_iff.mp hrespond
      obtain ⟨rfl, -⟩ := Prod.mk.inj heq
      have ha : (Target.response a).behaviour.spares := hs.awaiting a (Awaiting.of_take htake).1
      rw [call_of_spares hawaiting hcalled _ _ ha, hawaiting]

/-- Where nothing stops a timeline, a run that goes on leaves alone what looks neither at runs and
timelines nor at handlers. -/
theorem work (hs : s.Sparing) (hreachable : s.Reachable) (id : RunId) :
  view (s.work id) = view s
  := by
  rw [Server.work]
  split
  · rfl
  · rename_i run hrun
    split
    · exact h.proceed s id run
    · rename_i action hcalling
      have hspares := hs.of_action? hreachable hrun (congrArg Activity.action? hcalling)
      have hactive : ∀ activity, (s.setActivity id activity).Sparing := by
        intro activity
        refine ⟨hs.awaiting, hs.commands, ?_⟩
        rw [steady_scripts.setActivity]
        exact hs.scripts
      rw [handle, h.yieldTurn, carryOut hawaiting hcalled h (hactive _) hspares, h.setActivity]
    · exact h.takeUp s id run _ _
    · simp only
      split
      · rw [h.conclude, h.log]
      · split
        · rw [h.conclude]
        · rfl

end Apart

end Server

end CommandTimelines
