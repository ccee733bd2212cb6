import CommandTimelines.Program.Demo
import CommandTimelines.Script.Words
import CommandTimelines.Server.Clock
import CommandTimelines.Server.Execute
import CommandTimelines.Settings.Load
import CommandTimelines.Text.Cluster

/-!
# The shell

The program that reads lines and obeys them: a few words of its own, the operator's command,
and every other line a server command. Leaving it stops every timeline.
-/

namespace CommandTimelines.Program

open Host Script Text

/-- What a line tells the shell to do. -/
inductive Instruction where
  | nothing
  | leave
  | help
  /-- The operator's command, with the words after its name. -/
  | operate (args : List String)
  | call (name : String) (invocation : Invocation)
deriving DecidableEq, Repr

/-- Whether a character is one of those passed over in front of a server command. -/
def isMark (c : Char) : Bool := c == '/' || c == '.'

/-- A line read as a server command. A dot in front makes it silent. -/
def Instruction.ofCommand (line : List Char) : Instruction :=
  let text := String.ofList (line.dropWhile isMark)
  match words text with
  | [] => .nothing
  | name :: args =>
    .call (lower name)
      { raw := text, silent := line.head? == some '.', args, isLogged := true }

/-- What a line without backspaces tells the shell to do. -/
def Instruction.ofLine (line : List Char) : Instruction :=
  match words (String.ofList (line.dropWhile (· == '/'))) with
  | [] => .nothing
  | word :: args =>
    if lower word = "exit" ∨ lower word = "quit" then .leave
    else if lower word = "help" then .help
    else if Operator.answersTo (lower word) then .operate args
    else .ofCommand line

/-- What a line tells the shell to do; none if its backspaces cut a character. -/
def Instruction.read? (line : String) : Option Instruction :=
  (takeBack? line.toList).map fun line => .ofLine (trim line)

/-- A shell: the files its timelines are read from, and its server. -/
structure Shell where
  files : Files
  server : Server
deriving DecidableEq, Repr

namespace Shell

variable (shell : Shell)

/-! ### Fixed texts -/

/-- A rule across the screen. -/
def rule : String := String.ofList (List.replicate 72 '-')

/-- What the shell shows first. -/
def banner : List String :=
  ["Command Timelines", rule, "          Shell   v0.1.0    Library   v0.1.0   ", "",
    "    This software is provided 'as is', without warranty of any kind.",
    "    Distributed under the MIT OR Apache-2.0 license. Use at your own risk.", "", rule]

/-- The shell's own words, explained. -/
def ownHelp : List String :=
  ["", "Shell commands:",
    "  timeline start <file> [args]  Start a timeline (alias: tl)",
    "  timeline stop <file>          Stop a running timeline",
    "  timeline show                 List running timelines",
    "  help                          Show this message",
    "  exit                          Stop all timelines and quit"]

/-- A text with blanks after it, at least as long as a width. -/
def padded (width : Nat) (s : String) : String :=
  s ++ String.ofList (List.replicate (width - s.length) ' ')

/-- A line that explains a command. -/
def commandHelp (c : Command) : String :=
  let names := join ", " c.names
  "  " ++ match c.help with
    | some text => padded 30 names ++ text
    | none => names

/-- What the shell answers when it is asked for help. -/
def help : List String :=
  ownHelp ++ ["", "Server commands:"]
    ++ (Command.sorted shell.server.commands).map commandHelp ++ [""]

/-- What the shell answers to a name that nothing answers to. -/
def unknownCommand : String := "Invalid command entered. Type 'help' for a list."

/-! ### Obeying -/

/-- Lines printed now. -/
def say (texts : List String) : List Shown := printed shell.server.clock texts

/-- The shell after its server has changed, and what that shows. -/
def change (server : Server) : Shell × List Shown :=
  ({ shell with server }, shownSince shell.server.journal.length server)

/-- What the shell says about a call that failed. -/
def complaint (start : String) : Outcome → List String
  | .done => []
  | .failed chain => ["Error: " ++ start ++ chain.headD ""]
  | .panicked message => ["Error: " ++ start ++ message]

/-- The shell after calls of commands that answer to a name, and what they show. -/
def callEach (name : String) (invocation : Invocation) : Shell → List Command →
    Shell × List Shown
  | shell, [] => (shell, [])
  | shell, c :: rest =>
    let (shell, shown) := shell.change (shell.server.callCommand none c invocation)
    let complaints := shell.say (complaint ("/" ++ name ++ " failed: ") c.behaviour.outcome)
    let (shell, more) := callEach name invocation shell rest
    (shell, shown ++ complaints ++ more)

/-- The shell after a line that is no command has been taken for a response, and what that
shows. -/
def respond (name : String) (invocation : Invocation) : Shell × List Shown :=
  match shell.server.respond? none name invocation with
  | none => (shell, shell.say [unknownCommand])
  | some (server, outcome) =>
    let (shell, shown) := shell.change server
    (shell, shown ++ shell.say (complaint "" outcome))

/-- The shell right after an instruction, and what that shows. -/
def obey : Instruction → Shell × List Shown
  | .nothing => (shell, [])
  | .leave => (shell, [])
  | .help => (shell, shell.say shell.help)
  | .operate args =>
    shell.change (shell.server.execute ⟨none, ""⟩ shell.files .console args)
  | .call name invocation =>
    match Command.allNamed shell.server.commands name with
    | [] => shell.respond name invocation
    | found => callEach name invocation shell found

/-- The shell after an instruction and everything that follows from it, and what that
shows. -/
def after (instruction : Instruction) : Shell × List Shown :=
  let (shell, shown) := shell.obey instruction
  let (shell, more) := shell.change shell.server.answerAll
  (shell, shown ++ more)

/-- What a shell shows that is left, and how many timelines it had to stop. -/
def close : List Shown :=
  let (shell, shown) := shell.change (shell.server.stopAll ⟨none, ""⟩).answerAll
  let stopped := shell.server.journal.findSome? fun entry =>
    match entry.fact with
    | .answered _ (.stoppedAll count) => some count
    | _ => none
  let warning := match stopped with
    | some (count + 1) =>
      [⟨shell.server.clock,
        .logged .warn ("Stopped " ++ toString (count + 1) ++ " running timeline(s).")⟩]
    | _ => []
  shown ++ warning ++ shell.say ["Shutting down. Goodbye!"]

/-- How a shell ends that reads lines until it is told to leave or there are no more. It breaks
off at a line that cannot be read. -/
def exitAfter : Shell → List String → Exit
  | shell, [] => Exit.done shell.close
  | shell, line :: rest =>
    match Instruction.read? line with
    | none => Exit.brokenOff []
    | some .leave => Exit.done shell.close
    | some instruction =>
      let (shell, shown) := shell.after instruction
      (exitAfter shell rest).after shown

/-- The shell after some time, and what that shows. -/
def wait (milliseconds : Nat) : Shell × List Shown :=
  shell.change (shell.server.settle.advance milliseconds)

/-- The path of the file that an instruction asks to start. -/
def pathFor? : Instruction → Option String
  | .operate args =>
    match Operator.Request.ofArgs args with
    | .start file _ => (Path.key? file).map (Path.resolve shell.server.settings.root)
    | _ => none
  | _ => none

/-! ### Starting -/

/-- The variables that a shell looks at, besides those of its settings. -/
def variableNames : List String := ["QUIET_MODE", "TLSHELL_CONFIG"]

/-- The commands of the shell. -/
def commands : List Command := [Program.say, broadcast, confirm, home]

/-- The first note of a shell. -/
def rootNote (settings : Settings) : Shown :=
  ⟨0, .logged .info ("Timeline root is " ++ settings.root)⟩

/-- What a new shell shows when there is room for its events. -/
def greeting : List Shown :=
  printed 0 ["Command Timelines is running. Type 'help' for commands or 'exit' to quit."]

/-- The banner, unless the environment asks for quiet. -/
def opening (env : List Environment.Variable) : List Shown :=
  if (Environment.text? env "QUIET_MODE").isSome then [] else printed 0 banner

/-- The settings of a shell. -/
def settings (files : Files) (env : List Environment.Variable) :
    Except Settings.Fault Settings :=
  Settings.find files (Environment.text? env "TLSHELL_CONFIG") env

/-- The program, given its input, in a folder of files and an environment. -/
def run (files : Files) (env : List Environment.Variable) (input : String) : Exit :=
  let opened := opening env
  match settings files env with
  | .error fault => Exit.withoutSettings opened fault
  | .ok settings =>
    let shell : Shell := { files, server := { settings, commands } }
    let exit := (shell.exitAfter (splitLines input)).after greeting
    (Exit.ifRoom settings.room exit).after (opened ++ [rootNote settings])

end Shell

end CommandTimelines.Program
