import CommandTimelines.Error
import CommandTimelines.Script.Action
import CommandTimelines.Script.Line
import CommandTimelines.Script.Resolver

/-!
# From scripts to actions

A script is compiled line by line, before anything of it runs: a line that cannot be compiled
keeps the whole script from running. Lines are numbered from 1, and comments and blank lines
count.

`compile` reads the script of a timeline: its first line with content may name the arguments
that the timeline requires. `compileBody` reads lines that have no such header.
-/

namespace CommandTimelines.Script

open Host Text

/-- What the lines of a script are read against. The host of the commands is the list of those
that are registered, unless another type `R` of hosts is given. -/
structure Scope (R : Type := List Command) where
  /-- The timeline's name, for errors. -/
  name : String
  /-- The arguments of the run. -/
  params : List String
  /-- The commands known at the time. -/
  commands : R
  specifiers : Specifiers

namespace Scope

variable {R : Type} (scope : Scope R)

/-- A line with the arguments put in. Without arguments the line stays as it is. -/
def fill (number : Nat) (text : List Char) : Except TimelineError (List Char) :=
  if scope.params = [] then .ok text
  else (bindChars scope.params text).mapError (.unbound number)

variable [Resolver R]

/-- What a command line does: a call of every command that answers to its name, or the
delivery of a response if none does. -/
def actionsOf (number : Nat) (line : CommandLine) : Except TimelineError (List Action) :=
  match Resolver.find scope.commands line.name with
  | [] => .ok [.deliver number line.name line.text line.args]
  | commands =>
    if commands.all (·.allowsConsole) then
      .ok (commands.map fun c => .invoke number line.name c line.text line.silent line.args)
    else .error (.consoleForbidden scope.name line.name number)

/-- The actions of a line without its comment. -/
def compileText (number : Nat) (text : List Char) : Except TimelineError (List Action) := do
  let filled ← scope.fill number text
  match Directive.read scope.specifiers filled (Resolver.split scope.commands) with
  | .error fault => .error (.invalidWait number fault.value)
  | .ok .comment => .ok []
  | .ok (.wait milliseconds) => .ok [.delay number milliseconds]
  | .ok (.require _) => .error (.misplacedRequire scope.name number)
  | .ok (.command line) => scope.actionsOf number line

/-- The actions of a line. -/
def compileLine (number : Nat) (raw : List Char) : Except TimelineError (List Action) :=
  match Line.read raw with
  | .comment => .ok []
  | .text content => scope.compileText number content

/-- The actions of lines numbered from `number` on. -/
def compileLines (number : Nat) : List (List Char) → Except TimelineError (List Action)
  | [] => .ok []
  | line :: rest => do
    let here ← scope.compileLine number line
    let later ← compileLines (number + 1) rest
    return here ++ later

/-- The names that a header requires, if a line is one. -/
def header? (text : List Char) : Option (List String) :=
  (requireMark.isPrefixOf? text).map fun rest => (requiredNames rest).map String.ofList

/-- The actions of a script whose lines are numbered from `number` on. The first line with
content is the header if it names required arguments. -/
def compileScript (number : Nat) : List (List Char) → Except TimelineError (List Action)
  | [] => .error (.empty scope.name)
  | line :: rest =>
    match Line.read line with
    | .comment => compileScript (number + 1) rest
    | .text content =>
      if content.all isBlank then compileScript (number + 1) rest
      else match header? content with
        | some names =>
          if scope.params.length < names.length then .error (.missingParameters names)
          else scope.compileLines (number + 1) rest
        | none => scope.compileLines number (line :: rest)

/-- The actions of the script of a timeline. -/
def compile (raw : String) : Except TimelineError (List Action) :=
  scope.compileScript 1 (lines raw.toList)

/-- The actions of lines without a header. -/
def compileBody (raw : String) : Except TimelineError (List Action) :=
  scope.compileLines 1 (lines raw.toList)

end Scope

end CommandTimelines.Script
