import CommandTimelines.Proofs.Actions
import CommandTimelines.Proofs.Arguments
import CommandTimelines.Proofs.Calls
import CommandTimelines.Proofs.Header
import CommandTimelines.Proofs.Starting

/-!
# What timelines may call

A timeline acts for the console, so it must not call a command that is closed to the console. The
check is made once, as a start compiles its script: the queue that comes out of it calls only what
is open to the console (`Compiled.IsOpen`), and a line that any closed command answers to keeps
the run from being set up (`Server.exists_error_of_closed`).

Nothing is looked up again later but responses. So whatever is registered afterwards, no action of
a run ever calls a command that is closed (`Session.Reachable.callsOnlyOpen`).
-/

namespace CommandTimelines

open Host Script Text

/-- Whether an action calls only what is open to the console: a command that the console may run,
or no command. -/
def Script.Action.IsOpen : Action → Prop
  | .invoke _ _ command _ _ _ => command.allowsConsole = true
  | _ => True

namespace Script

/-- Whether lines come to nothing but actions that call only what is open to the console. -/
def Compiled.IsOpen (result : Compiled) : Prop :=
  ∀ actions, result = .ok actions → ∀ action ∈ actions, action.IsOpen

/-- Waits call nothing. -/
theorem Action.isOpen_delay (number milliseconds : Nat) :
  (delay number milliseconds).IsOpen
  := trivial

namespace Scope

variable {R : Type} [Resolver R] (scope : Scope R)

/-! ### The check of a command line -/

theorem isOpen_actionsOf (number : Nat) (line : CommandLine) :
  Compiled.IsOpen (scope.actionsOf number line)
  := scope.all_actionsOf (P := Action.IsOpen) trivial fun _ _ hopen => hopen

theorem isOpen_compileLines (ls : List (List Char)) (number : Nat) :
  Compiled.IsOpen (scope.compileLines number ls)
  := scope.all_compileLines Action.isOpen_delay scope.isOpen_actionsOf ls number

theorem isOpen_compileScript (ls : List (List Char)) (number : Nat) :
  Compiled.IsOpen (scope.compileScript number ls)
  := scope.all_compileScript Action.isOpen_delay scope.isOpen_actionsOf ls number

/-! ### Lines with a command -/

/-- Whether a raw line is a command line, its arguments put in. -/
inductive Reads (raw : List Char) (line : CommandLine) : Prop
  | intro {content filled : List Char} {number : Nat} (hread : Line.read raw = .text content)
      (hfill : scope.fill number content = .ok filled)
      (hdirective : Directive.read scope.specifiers filled (Resolver.split scope.commands)
        = .ok (.command line))

omit [Resolver R] in
/-- A mark without braces stays at the beginning of a line that is filled. -/
theorem prefix_of_fill {mark content filled : List Char} {number : Nat}
    (hmark : ∀ c ∈ mark, isBrace c = false) (hmarked : mark <+: content)
    (h : scope.fill number content = .ok filled) :
  mark <+: filled
  := by
  obtain ⟨rest, rfl⟩ := hmarked
  rw [fill] at h
  split at h
  · cases h
    exact List.prefix_append mark rest
  · obtain ⟨next, hnext⟩ := bindFrom_append hmark rest 1
    rw [bindChars, hnext] at h
    cases hbind : bindFrom scope.params next .outside rest with
    | error fault =>
      rw [hbind] at h
      cases h
    | ok text =>
      rw [hbind] at h
      cases h
      exact List.prefix_append mark text

section

variable {scope} {raw : List Char} {line : CommandLine}

/-- A command line is no header. -/
theorem Reads.not_header (h : scope.Reads raw line) {content : List Char}
    (hread : Line.read raw = .text content) :
  ¬ requireMark <+: content
  := by
  obtain ⟨hcontent, hfill, hdirective⟩ := h
  intro hmarked
  obtain rfl := Line.text.inj (hread.symm.trans hcontent)
  have hmark : ∀ c ∈ requireMark, isBrace c = false := by simp [requireMark, isBrace]
  obtain ⟨rest, rfl⟩ := scope.prefix_of_fill hmark hmarked hfill
  rw [Directive.read_requireMark] at hdirective
  cases hdirective

/-- A command line that a closed command answers to cannot be compiled. -/
theorem Reads.compileLine_eq (h : scope.Reads raw line) {command : Command}
    (hfind : command ∈ Resolver.find scope.commands line.name)
    (hclosed : command.allowsConsole = false) (number : Nat) :
  scope.compileLine number raw = .error (.consoleForbidden scope.name line.name number)
  := by
  obtain ⟨hread, hfill, hdirective⟩ := h
  rw [compileLine, hread]
  have htext := scope.compileText_of_command (scope.fill_eq_ok hfill number) hdirective
  have hnone : Resolver.find scope.commands line.name ≠ [] := List.ne_nil_of_mem hfind
  have hall : (Resolver.find scope.commands line.name).all (·.allowsConsole) = false := by
    rw [List.all_eq_false]
    exact ⟨command, hfind, by simp [hclosed]⟩
  rw [actionsOf] at htext
  split at htext
  · rename_i hnil
    exact absurd hnil hnone
  · rw [hall] at htext
    exact htext

end

theorem exists_error_of_mem {ls : List (List Char)} {raw : List Char} (hmem : raw ∈ ls)
    (h : ∀ number, ∃ error, scope.compileLine number raw = .error error) :
  ∀ number, ∃ error, scope.compileLines number ls = .error error
  := by
  intro number
  obtain ⟨above, below, rfl⟩ := List.append_of_mem hmem
  rw [compileLines_append, compileLines_cons]
  cases scope.compileLines number above with
  | error error => exact ⟨error, rfl⟩
  | ok actions =>
    obtain ⟨error, herror⟩ := h (number + above.length)
    rw [herror]
    exact ⟨error, rfl⟩

/-- No script can be compiled in which a closed command answers to a command line. -/
theorem exists_error_of_reads (hsplit : Resolver.split scope.commands [] = [])
    {raw : List Char} {line : CommandLine} (hreads : scope.Reads raw line) {command : Command}
    (hfind : command ∈ Resolver.find scope.commands line.name)
    (hclosed : command.allowsConsole = false) {ls : List (List Char)} (hmem : raw ∈ ls) :
  ∀ number, ∃ error, scope.compileScript number ls = .error error
  := by
  have hfault := hreads.compileLine_eq hfind hclosed
  induction ls with
  | nil => cases hmem
  | cons l ls ih =>
    intro number
    cases hblank : (Line.read l).isBlank with
    | true =>
      rw [scope.compileScript_of_isBlank hblank]
      rcases List.mem_cons.mp hmem with rfl | hmem
      · -- A blank line comes to nothing, and so to no error.
        have hnothing := hfault 0
        rw [scope.compileLine_of_isBlank hsplit hblank] at hnothing
        cases hnothing
      · exact ih hmem _
    | false =>
      obtain ⟨content, hread, hcontent⟩ := Line.exists_content hblank
      by_cases hheader : requireMark <+: content
      · obtain ⟨list, rfl⟩ := hheader
        rw [scope.compileScript_of_header hread hcontent]
        split
        · exact ⟨_, rfl⟩
        · rcases List.mem_cons.mp hmem with rfl | hmem
          · exact absurd ⟨list, rfl⟩ (hreads.not_header hread)
          · exact scope.exists_error_of_mem hmem (fun n => ⟨_, hfault n⟩) _
      · rw [scope.compileScript_of_not_header hread hcontent hheader]
        exact scope.exists_error_of_mem hmem (fun n => ⟨_, hfault n⟩) _

end Scope

end Script

namespace Server

/-! ### What runs are set up with -/

/-- Whether a start would bring a command line that a closed command answers to: in its script,
or in the clean-up. -/
inductive IsClosedTo (s : Server) (o : Opening) : Prop
  | body {raw : List Char} {line : CommandLine} {command : Command}
      (hmem : raw ∈ lines o.text.toList) (hreads : (s.scope o.key o.args).Reads raw line)
      (hfind : command ∈ Command.allNamed s.commands line.name)
      (hclosed : command.allowsConsole = false)
  | cleanUp {raw : List Char} {line : CommandLine} {command : Command}
      (hmem : raw ∈ lines (join "\n" s.settings.cleanUp).toList)
      (hreads : (s.scope o.key []).Reads raw line)
      (hfind : command ∈ Command.allNamed s.commands line.name)
      (hclosed : command.allowsConsole = false)

/-- A start with a command line that a closed command answers to sets up no run. -/
theorem exists_error_of_closed {s : Server} {o : Opening} (h : s.IsClosedTo o) :
  (∃ error, (s.commit o).2 = .error error) ∧ (s.commit o).1.runs = s.runs
  := by
  have hfault : (∃ error, s.bodyOf o = .error error) ∨ ∃ error, s.cleanUpOf o = .error error := by
    cases h with
    | body hmem hreads hfind hclosed =>
      exact .inl ((s.scope o.key o.args).exists_error_of_reads rfl hreads hfind hclosed hmem 1)
    | cleanUp hmem hreads hfind hclosed =>
      have hline := hreads.compileLine_eq hfind hclosed
      exact .inr ((s.scope o.key []).exists_error_of_mem hmem (fun n => ⟨_, hline n⟩) 1)
  have hcommitted := s.committed o
  generalize (s.commit o).1 = s' at hcommitted ⊢
  generalize (s.commit o).2 = result at hcommitted ⊢
  cases hcommitted with
  | active hactive => exact ⟨⟨_, rfl⟩, rfl⟩
  | declined notes hidle hdeclined =>
    obtain ⟨timelines, heq⟩ := enroll_eq s o.key
    rw [heq]
    exact ⟨⟨_, rfl⟩, rfl⟩
  | launched hidle hbody hcleanUp hscripts =>
    obtain ⟨error, herror⟩ | ⟨error, herror⟩ := hfault
    · rw [hbody] at herror
      cases herror
    · rw [hcleanUp] at herror
      cases herror

/-- What a run does calls only what is open to the console. -/
theorem Reachable.isOpen {s : Server} (h : Reachable s) :
  ∀ run ∈ s.runs, ∀ action ∈ run.body ++ run.cleanUp, action.IsOpen
  := by
  intro run hrun
  obtain ⟨t, o, -, hbody, hcleanUp⟩ := h.exists_compiled run hrun
  exact List.forall_mem_append.mpr
    ⟨(t.scope o.key o.args).isOpen_compileScript _ 1 run.body hbody,
      (t.scope o.key []).isOpen_compileLines _ 1 run.cleanUp hcleanUp⟩

/-- The action that a run has at hand calls only what is open to the console. -/
theorem Reachable.isOpen_action {s : Server} (h : Reachable s) {id : RunId} {run : Run}
    (hrun : s.runs[id]? = some run) {action : Action}
    (haction : run.activity.action? = some action) :
  action.IsOpen
  := h.isOpen run (List.mem_of_getElem? hrun) action (h.mem_of_action? hrun haction)

/-- The calls that are made as things stand are made for the console, are not logged, and are
those of commands open to the console or of handlers that await a response. -/
theorem Calls.isOpen {s : Server} {work : Work} {call : Call} (h : s.Calls work call)
    (haction : work.action.IsOpen) :
  call.invocation.actor = .console ∧ call.invocation.isLogged = false
    ∧ (∀ command, call.target = .command command → command.allowsConsole = true)
    ∧ ∀ awaiting, call.target = .response awaiting → awaiting ∈ s.awaiting
  := by
  cases h with
  | invoke h =>
    rw [h] at haction
    refine ⟨rfl, rfl, ?_, ?_⟩
    · rintro command ⟨⟩
      exact haction
    · rintro awaiting ⟨⟩
  | @deliver line key raw args a rest h ha =>
    refine ⟨rfl, rfl, ?_, ?_⟩
    · rintro command ⟨⟩
    · rintro awaiting ⟨⟩
      obtain ⟨b, hfind, heq⟩ := Option.map_eq_some_iff.mp ha
      obtain ⟨rfl, -⟩ := Prod.mk.inj heq
      exact List.mem_of_find?_eq_some hfind

end Server

namespace Session

variable {session : Session}

/-- What comes about next in a session calls, of its runs, only what is open to the console. -/
theorem Reachable.exists_later (h : session.Reachable) (x : Happening) :
  ∃ later, (session.happen x).server.history = session.server.history ++ later
    ∧ ∀ entry ∈ later, ∀ work call, entry.fact = .called (some work) call →
      call.invocation.actor = .console ∧ call.invocation.isLogged = false
      ∧ (∀ command, call.target = .command command → command.allowsConsole = true)
      ∧ ∀ awaiting, call.target = .response awaiting → awaiting ∈ session.server.awaiting
  := by
  obtain ⟨new, hnew⟩ := (session.happen_changes x).journal_suffix
  use new.reverse
  constructor
  · rw [Server.history, ← hnew, List.reverse_append, Server.history]
  · intro entry hentry work call hcalled
    have hruns : (session.happen x).server.runCalls
        = new.filterMap (·.runCall?) ++ session.server.runCalls := by
      rw [Server.runCalls, ← hnew, List.filterMap_append, Server.runCalls]
    have hmem : (work, call) ∈ new.filterMap (·.runCall?) :=
      List.mem_filterMap.mpr ⟨entry, List.mem_reverse.mp hentry, Entry.runCall?_eq_some.mpr hcalled⟩
    obtain hnone | ⟨id, run, action, made, hrun, hactivity, hmakes, hcalls⟩ :=
      session.runCalls_happen x
    · rw [hnone] at hruns
      rw [List.self_eq_append_left.mp hruns] at hmem
      cases hmem
    · rw [hcalls, ← List.singleton_append] at hruns
      rw [← List.append_cancel_right hruns] at hmem
      obtain ⟨rfl, rfl⟩ := Prod.mk.inj (List.mem_singleton.mp hmem)
      apply hmakes.isOpen
      apply h.server.isOpen_action hrun
      rw [hactivity]
      rfl

/-- A timeline calls nothing that is closed to the console, whatever happens in its session and
whichever commands are registered meanwhile. Each call that an action of a run has made was made
for the console and without being logged, and if it was the call of a command, of one that the
console may run. The response that an action calls is one that is awaited just then. And a start
with a line in its script or in the clean-up that a closed command answers to at that time fails,
and sets up no run. -/
theorem Reachable.callsOnlyOpen (h : session.Reachable) :
  (∀ entry ∈ session.server.history, ∀ work call, entry.fact = .called (some work) call →
    call.invocation.actor = .console ∧ call.invocation.isLogged = false
    ∧ ∀ command, call.target = .command command → command.allowsConsole = true)
  ∧ (∀ x, ∃ later, (session.happen x).server.history = session.server.history ++ later
    ∧ ∀ entry ∈ later, ∀ work call, entry.fact = .called (some work) call →
      ∀ awaiting, call.target = .response awaiting → awaiting ∈ session.server.awaiting)
  ∧ ∀ o, session.server.IsClosedTo o →
    (∃ error, (session.server.commit o).2 = .error error)
    ∧ (session.server.commit o).1.runs = session.server.runs
  := by
  refine ⟨?_, ?_, fun o => Server.exists_error_of_closed⟩
  · induction h with
    | new files settings commands awaiting =>
      intro entry hentry
      cases hentry
    | @happen session h x ih =>
      intro entry hentry work call hcalled
      obtain ⟨later, hhistory, hlater⟩ := h.exists_later x
      rw [hhistory] at hentry
      rcases List.mem_append.mp hentry with hentry | hentry
      · exact ih entry hentry work call hcalled
      · obtain ⟨hactor, hlogged, hcommand, -⟩ := hlater entry hentry work call hcalled
        exact ⟨hactor, hlogged, hcommand⟩
  · intro x
    obtain ⟨later, hhistory, hlater⟩ := h.exists_later x
    refine ⟨later, hhistory, ?_⟩
    intro entry hentry work call hcalled
    obtain ⟨-, -, -, hresponse⟩ := hlater entry hentry work call hcalled
    exact hresponse

/-- A command that is closed to the console is registered under two names while a run waits: one
under which the run has found another command, and one that no command answered to. -/
theorem Reachable.callsOnlyOpen_of_register :
  let say : Command := { given := ["say"] }
  let closed : Command := { given := ["say", "halt"], allowsConsole := false }
  let script := "#wait 5\nsay hi\nhalt"
  let session := ((Session.happen { server := { commands := [say] } }
    (.commit ⟨"show", script, []⟩)).after 0 (.register closed)).after 1 (.advance 5)
  let call : Call := ⟨.command say, { raw := "say hi", args := ["hi"] }⟩
  let work : Work := ⟨0, false, .invoke 2 "say" say "say hi" false ["hi"]⟩
  session.server.history.filterMap (·.runCall?) = [(work, call)]
    ∧ call.invocation.actor = .console ∧ call.invocation.isLogged = false
    ∧ say.allowsConsole = true
    ∧ (∃ error, (session.server.commit ⟨"other", script, []⟩).2 = .error error)
  := by
  intro say closed script session call work
  have hreachable : session.Reachable :=
    .after (.after (.happen (.new {} {} [say] []) _) 0 _) 1 _
  obtain ⟨hcalls, -, hstarts⟩ := hreachable.callsOnlyOpen
  have hruns : session.server.history.filterMap (·.runCall?) = [(work, call)] := by decide +kernel
  have hentry : ⟨5, .called (some work) call⟩ ∈ session.server.history := by decide +kernel
  have hclosed : session.server.IsClosedTo ⟨"other", script, []⟩ := by
    have hread : Line.read "say hi".toList = .text "say hi".toList := by decide +kernel
    have hfill : (session.server.scope "other" []).fill 2 "say hi".toList
        = .ok "say hi".toList := by decide +kernel
    have hreads : (session.server.scope "other" []).Reads "say hi".toList
        ⟨false, "say hi", "say", ["hi"]⟩ := .intro hread hfill (by decide +kernel)
    have hfind : closed ∈ Command.allNamed session.server.commands "say" := by decide +kernel
    exact .body (by decide +kernel) hreads hfind rfl
  obtain ⟨hactor, hlogged, hcommand⟩ := hcalls _ hentry work call rfl
  exact ⟨hruns, hactor, hlogged, hcommand say rfl, (hstarts _ hclosed).1⟩

end Session

end CommandTimelines
