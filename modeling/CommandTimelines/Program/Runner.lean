import CommandTimelines.Program.Demo
import CommandTimelines.Server.Clock
import CommandTimelines.Server.Execute
import CommandTimelines.Settings.Load

/-!
# Running one timeline

The program that starts one timeline, waits until its run has ended and shows what its commands
print. A settings file may be named in front of the timeline's file, after which the arguments
of the run follow.
-/

namespace CommandTimelines.Program.Runner

/-- What the program is told to do. -/
structure Request where
  settingsFile : Option String
  file : String
  args : List String
deriving DecidableEq, Repr

/-- The word in front of the name of a settings file. -/
def settingsWord : String := "--config"

/-- The settings file named first among some words, and the other words. -/
def splitSettings : List String → Except String (Option String × List String)
  | [] => .ok (none, [])
  | word :: rest =>
    if word = settingsWord then
      match rest with
      | [] => .error (settingsWord ++ " needs a path")
      | path :: rest => .ok (some path, rest)
    else (splitSettings rest).map fun (path, others) => (path, word :: others)

/-- What the words after the program's name tell it to do. -/
def Request.read (words : List String) : Except String Request := do
  let (settingsFile, others) ← splitSettings words
  match others with
  | [] => .error "usage: tldev [--config <path>] <file> [arguments...]"
  | file :: args => .ok { settingsFile, file, args }

/-- The commands of the program. -/
def commands : List Host.Command := [say, broadcast, fail]

/-- What caused an error, if the error does not tell. -/
def causeOf : TimelineError → Option String
  | .unbound _ cause => some cause.message
  | _ => none

/-- A run of a file's timeline up to its end. -/
def runFile (settings : Settings) (files : Files) (file : String) (args : List String) : Exit :=
  let s : Server := { settings, commands }
  match s.start files file args with
  | (s, .error error) => Exit.failed (shownSince 0 s) error.message (causeOf error)
  | (s, .ok run) =>
    let s := (s.await (.finishing ⟨none, file⟩ run)).answerAll
    Exit.done (shownSince 0 s)

/-- The program, told some words, in a folder of files and an environment. Its log is not
shown. -/
def run (files : Files) (env : List Environment.Variable) (words : List String) : Exit :=
  match Request.read words with
  | .error message => Exit.failed [] message none
  | .ok request =>
    match Settings.find files request.settingsFile env with
    | .error fault => Exit.withoutSettings [] fault
    | .ok settings =>
      let exit := runFile settings files request.file request.args
      Exit.ifRoom settings.room { exit with output := exit.output.filter (!·.isLogged) }

end CommandTimelines.Program.Runner
