import CommandTimelines.Program.Runner
import CommandTimelines.Program.Shell

/-!
# Command line

`shell` as the first word opens the shell; any other words go to the program that runs one
timeline. Files are read when they are needed, from below the working folder, and what a run
shows is shown at its time.
-/

namespace CommandTimelines.Main

open Program

/-- What lies at a path; nothing if it cannot be read. -/
def nodeAt? (path : String) : IO (Option Node) := do
  try
    let found ← IO.FS.realPath path
    if ← found.isDir then return some .folder
    return some (.file (Content.ofBytes (← IO.FS.readBinFile path)))
  catch _ => return none

/-- The files that lie at some paths. -/
def filesAt (paths : List String) : IO Files := do
  let found ← paths.filterMapM fun path => do
    return (← nodeAt? path).map fun node => (path, node)
  return Files.ofList found

/-- The variables with some names that are set. -/
def variablesNamed (names : List String) : IO (List Environment.Variable) :=
  names.filterMapM fun name => do
    return (← IO.getEnv name).map fun text => (name, text)

/-- Shows everything at its time, counted from the moment `begun`. -/
def display (begun : Nat) (shown : List Shown) : IO Unit := do
  let stdout ← IO.getStdout
  for s in shown do
    let now ← IO.monoMsNow
    IO.sleep (begun + s.time - now).toUInt32
    stdout.putStrLn s.output.text
    stdout.flush

/-- The code that a killed program leaves. -/
def killedCode : UInt32 := 134

/-- Shows what is left of a program. -/
def finish (exit : Exit) : IO UInt32 := do
  display (← IO.monoMsNow) exit.output
  let stderr ← IO.getStderr
  exit.errors.forM stderr.putStrLn
  return (exit.code.map (·.toUInt32)).getD killedCode

/-- Runs one timeline. -/
def runFile (words : List String) : IO UInt32 := do
  let env ← variablesNamed Environment.settingNames
  match Runner.Request.read words with
  | .error _ => finish (Runner.run {} env words)
  | .ok request =>
    let paths := Settings.filePaths request.settingsFile
    let root := match Settings.find (← filesAt paths) request.settingsFile env with
      | .ok settings => settings.root
      | .error _ => ""
    let timeline := (Path.key? request.file).map (Path.resolve root)
    finish (Runner.run (← filesAt (paths ++ timeline.toList)) env words)

/-- Reads lines and obeys them until there are no more. -/
partial def obeyLines (begun : Nat) (input : IO.FS.Stream) (shell : Shell) : IO UInt32 := do
  let text ← input.getLine
  let (shell, shown) := shell.wait ((← IO.monoMsNow) - begun - shell.server.clock)
  display begun shown
  match Instruction.read? text with
  | none => finish (Exit.brokenOff [])
  | some instruction =>
    if text.isEmpty || instruction == .leave then
      display begun shell.close
      return 0
    let files ← filesAt (shell.pathFor? instruction).toList
    let (shell, shown) := Shell.after { shell with files } instruction
    display begun shown
    obeyLines begun input shell

/-- Opens the shell. -/
def openShell : IO UInt32 := do
  let env ← variablesNamed (Environment.settingNames ++ Shell.variableNames)
  let path := Environment.text? env "TLSHELL_CONFIG"
  let files ← filesAt (Settings.filePaths path)
  match Shell.settings files env with
  | .error _ => finish (Shell.run files env "")
  | .ok settings =>
    if settings.room ≠ .enough then return ← finish (Shell.run files env "")
    let begun ← IO.monoMsNow
    display begun (Shell.opening env ++ Shell.rootNote settings :: Shell.greeting)
    obeyLines begun (← IO.getStdin) { files, server := { settings, commands := Shell.commands } }

end CommandTimelines.Main

/-- The programs. -/
def main : List String → IO UInt32
  | "shell" :: _ => CommandTimelines.Main.openShell
  | words => CommandTimelines.Main.runFile words
