import CommandTimelines.Proofs.Execution
import CommandTimelines.Proofs.Header

/-!
# The actions that scripts come to

What is so of every action that a single command line comes to, and of waits, is so of all actions
of a script (`Scope.all_compileScript`), and of those of lines without a header
(`Scope.all_compileLines`). What a run was set up with was compiled in this way
(`Server.Reachable.exists_compiled`), and the action that it has at hand is part of that
(`Server.Reachable.mem_of_action?`).
-/

namespace CommandTimelines

open Host Script

namespace Script

/-- Whether lines come to nothing but actions with a property. -/
def Compiled.All (P : Action → Prop) (result : Compiled) : Prop :=
  ∀ actions, result = .ok actions → ∀ action ∈ actions, P action

namespace Compiled

variable {P : Action → Prop}

theorem all_nil :
  All P (.ok [])
  := by
  rintro actions ⟨⟩ action haction
  cases haction

theorem all_error (error : TimelineError) :
  All P (.error error)
  := by
  rintro actions ⟨⟩

theorem all_singleton {action : Action} (h : P action) :
  All P (.ok [action])
  := by
  rintro actions ⟨⟩ other hother
  rw [List.mem_singleton.mp hother]
  exact h

theorem All.followedBy {here later : Compiled} (hhere : here.All P) (hlater : later.All P) :
  (here.followedBy later).All P
  := by
  cases here with
  | error error => exact all_error error
  | ok p =>
    cases later with
    | error error => exact all_error error
    | ok q =>
      rintro actions ⟨⟩ action haction
      rcases List.mem_append.mp haction with haction | haction
      · exact hhere p rfl action haction
      · exact hlater q rfl action haction

end Compiled

namespace Scope

section

variable {R : Type} [Resolver R] (scope : Scope R) {P : Action → Prop}

/-- A command line comes to a delivery, or to calls of commands that are open to the console. -/
theorem all_actionsOf {number : Nat} {line : CommandLine}
    (hdeliver : P (.deliver number line.name line.text line.args))
    (hinvoke : ∀ c ∈ Resolver.find scope.commands line.name, c.allowsConsole →
      P (.invoke number line.name c line.text line.silent line.args)) :
  Compiled.All P (scope.actionsOf number line)
  := by
  rw [actionsOf]
  split
  · exact Compiled.all_singleton hdeliver
  · split
    · rename_i hall
      rintro actions ⟨⟩ action haction
      obtain ⟨c, hc, rfl⟩ := List.mem_map.mp haction
      exact hinvoke c hc (List.all_eq_true.mp hall c hc)
    · exact Compiled.all_error _

variable
  (hdelay : ∀ number milliseconds, P (.delay number milliseconds))
  (hline : ∀ number line, Compiled.All P (scope.actionsOf number line))

include hdelay hline

theorem all_compileText (number : Nat) (text : List Char) :
  Compiled.All P (scope.compileText number text)
  := by
  rw [compileText]
  cases scope.fill number text with
  | error error => exact Compiled.all_error error
  | ok filled =>
    simp only [Bind.bind, Except.bind]
    split
    · exact Compiled.all_error _
    · exact Compiled.all_nil
    · exact Compiled.all_singleton (hdelay number _)
    · exact Compiled.all_error _
    · apply hline

theorem all_compileLines (ls : List (List Char)) :
  ∀ number, Compiled.All P (scope.compileLines number ls)
  := by
  induction ls with
  | nil =>
    intro number
    exact Compiled.all_nil
  | cons l ls ih =>
    intro number
    rw [compileLines_cons]
    apply Compiled.All.followedBy _ (ih (number + 1))
    rw [compileLine]
    split
    · exact Compiled.all_nil
    · apply scope.all_compileText hdelay hline

theorem all_compileScript (ls : List (List Char)) :
  ∀ number, Compiled.All P (scope.compileScript number ls)
  := by
  induction ls with
  | nil =>
    intro number
    exact Compiled.all_error _
  | cons l ls ih =>
    intro number
    cases hblank : (Line.read l).isBlank with
    | true =>
      rw [scope.compileScript_of_isBlank hblank]
      apply ih
    | false =>
      obtain ⟨names, hscript⟩ | hscript := scope.compileScript_of_not_isBlank hblank
      · rw [hscript]
        split
        · exact Compiled.all_error _
        · apply scope.all_compileLines hdelay hline
      · rw [hscript]
        apply scope.all_compileLines hdelay hline

end

end Scope

end Script

namespace Server

variable {s : Server}

/-! ### What starts compile -/

section

variable {P : Action → Prop} (hdelay : ∀ number milliseconds, P (.delay number milliseconds))
  (hdeliver : ∀ number key raw args, P (.deliver number key raw args))
  (hinvoke : ∀ c ∈ s.commands, ∀ number name raw silent args,
    P (.invoke number name c raw silent args))

include hdelay hdeliver hinvoke

theorem all_bodyOf {o : Opening} {body : List Action} (h : s.bodyOf o = .ok body) :
  ∀ action ∈ body, P action
  := by
  apply Scope.all_compileScript _ hdelay _ _ 1 body h
  intro number line
  apply Scope.all_actionsOf _ (hdeliver ..)
  intro c hc _
  exact hinvoke c (List.mem_of_mem_filter hc) ..

theorem all_cleanUpOf {o : Opening} {cleanUp : List Action} (h : s.cleanUpOf o = .ok cleanUp) :
  ∀ action ∈ cleanUp, P action
  := by
  apply Scope.all_compileLines _ hdelay _ _ 1 cleanUp h
  intro number line
  apply Scope.all_actionsOf _ (hdeliver ..)
  intro c hc _
  exact hinvoke c (List.mem_of_mem_filter hc) ..

end

/-- What a run is to do was compiled when it was set up: its body of a script, and its clean-up of
the lines that the settings give. -/
theorem Reachable.exists_compiled (h : s.Reachable) :
  ∀ run ∈ s.runs, ∃ (t : Server) (o : Opening),
    t.settings = s.settings ∧ t.bodyOf o = .ok run.body ∧ t.cleanUpOf o = .ok run.cleanUp
  := by
  induction h with
  | new settings commands awaiting => exact List.forall_mem_nil _
  | @change s t _ hchange ih =>
    cases hchange with
    | aside commands awaiting hturns hclock => exact ih
    | record fact hrun hstops => exact ih
    | enroll key =>
      obtain ⟨timelines, heq⟩ := enroll_eq s key
      rw [heq]
      exact ih
    | launch o body cleanUp hidle hknown hbody hcleanUp =>
      intro run hrun
      rcases List.mem_append.mp hrun with hrun | hrun
      · exact ih run hrun
      · rw [List.mem_singleton.mp hrun]
        exact ⟨s, o, rfl, hbody, hcleanUp⟩
    | @work id run run' facts pending hrun hnext hfollows =>
      intro other hother
      rcases List.mem_or_eq_of_mem_set hother with hother | rfl
      · exact ih other hother
      · obtain ⟨-, hbody, hcleanUp⟩ := hnext.key_eq
        rw [hbody, hcleanUp]
        exact ih run (List.mem_of_getElem? hrun)
    | serve hserved => exact ih

/-- The action that a run has at hand is one of its body or of its clean-up. -/
theorem Reachable.mem_of_action? (h : Reachable s) {id : RunId} {run : Run}
    (hrun : s.runs[id]? = some run) {action : Action}
    (haction : run.activity.action? = some action) :
  action ∈ run.body ++ run.cleanUp
  := by
  obtain ⟨done, atHand, hlogged⟩ := (h.lived hrun).logged
  have hwork : ⟨id, run.isCleaning, action⟩ ∈ run.works id := by
    rw [← hlogged.works_eq, Run.atHand, haction]
    apply List.mem_append_right
    exact List.mem_singleton_self _
  rcases List.mem_append.mp hwork with hwork | hwork
  · obtain ⟨a, ha, heq⟩ := List.mem_map.mp hwork
    obtain rfl : a = action := congrArg Work.action heq
    exact List.mem_append_left _ (List.mem_of_mem_take ha)
  · obtain ⟨a, ha, heq⟩ := List.mem_map.mp hwork
    obtain rfl : a = action := congrArg Work.action heq
    exact List.mem_append_right _ (List.mem_of_mem_take ha)

end Server

end CommandTimelines
