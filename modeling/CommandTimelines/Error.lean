import CommandTimelines.Files
import CommandTimelines.Script.Directive
import CommandTimelines.Script.Placeholder
import CommandTimelines.Text.Pieces
import CommandTimelines.Text.Quoted

/-!
# What can go wrong

`TimelineError` says why a timeline was not started or not stopped; `StepError` says how a
step of a running timeline failed, which never ends the run. Each has one wording and one
stable label.
-/

namespace CommandTimelines

open Text Script

/-- Why a timeline was not started or not stopped. -/
inductive TimelineError where
  /-- Nothing but comments and blanks. -/
  | empty (name : String)
  /-- Fewer arguments than the timeline requires, by name. -/
  | missingParameters (names : List String)
  | invalidWait (line : Nat) (value : String)
  /-- A command on a line that the console may not run. -/
  | consoleForbidden (name command : String) (line : Nat)
  /-- The arguments cannot be put into a line. -/
  | unbound (line : Nat) (cause : BindFault)
  /-- A line that names required arguments and is not the first line of the script. -/
  | misplacedRequire (name : String) (line : Nat)
  | alreadyRunning (name : String)
  | notRunning (name : String)
  | notFound (name : String)
  | unreadable (fault : FileFault)
  /-- A path that does not stay below the timeline folder. -/
  | invalidPath (file : String)
deriving DecidableEq, Repr

/-- The names of required arguments, as they are listed to an operator. -/
def parameterList (names : List String) : String :=
  join " " (names.map fun n => "<" ++ n ++ ">")

/-- The wording of an error. -/
def TimelineError.message : TimelineError → String
  | .empty name => name ++ " has no commands to run"
  | .missingParameters names => "missing parameters: " ++ parameterList names
  | .invalidWait line value =>
    (InvalidInterval.mk value).message ++ " on line " ++ toString line
  | .consoleForbidden name command line =>
    name ++ " had an error at line " ++ toString line ++ ": /" ++ command
      ++ " cannot be run from the console"
  | .unbound line cause =>
    "could not bind parameters on line " ++ toString line ++ ": " ++ cause.message
  | .misplacedRequire name line =>
    name ++ ": #req must be the first non-comment line (found on line "
      ++ toString line ++ ")"
  | .alreadyRunning name => name ++ " is already running"
  | .notRunning name => name ++ " isn't running"
  | .notFound name => name ++ " doesn't exist"
  | .unreadable fault => fault.message
  | .invalidPath file =>
    "invalid timeline path '" ++ file ++ "': must be relative to the timeline folder"

/-- The label of an error. -/
def TimelineError.label : TimelineError → String
  | .empty _ => "timeline_empty"
  | .missingParameters _ => "timeline_missing_parameters"
  | .invalidWait _ _ => "timeline_invalid_wait"
  | .consoleForbidden _ _ _ => "timeline_console_forbidden"
  | .unbound _ _ => "timeline_format"
  | .alreadyRunning _ => "timeline_already_running"
  | .notRunning _ => "timeline_not_running"
  | .notFound _ => "timeline_not_found"
  | .unreadable _ => "timeline_io"
  | .misplacedRequire _ _ => "timeline_error"
  | .invalidPath _ => "timeline_error"

/-- The line of the script that an error is tied to. -/
def TimelineError.line? : TimelineError → Option Nat
  | .invalidWait line _ => some line
  | .consoleForbidden _ _ line => some line
  | .unbound line _ => some line
  | _ => none

/-- How a step of a running timeline failed. -/
inductive StepError where
  /-- The handler of a command returned an error, outermost context first. -/
  | command (name : String) (chain : List String)
  /-- The handler of a response returned an error, outermost context first. -/
  | response (key : String) (chain : List String)
  | panicked (message : String)
deriving DecidableEq, Repr

/-- The wording of an error with its contexts. -/
def chainMessage (chain : List String) : String := join ": " chain

/-- The wording of a panic. The number of the task it happened in is not told. -/
def panicMessage (message : String) : String :=
  "task # panicked with message " ++ quote message

/-- The wording of a failed step. -/
def StepError.message : StepError → String
  | .command name chain => "/" ++ name ++ " failed: " ++ chainMessage chain
  | .response key chain => "response '" ++ key ++ "' failed: " ++ chainMessage chain
  | .panicked message => "step panicked: " ++ panicMessage message

/-- The label of a failed step. -/
def StepError.label : StepError → String
  | .command _ _ => "step_command_failed"
  | .response _ _ => "step_response_failed"
  | .panicked _ => "step_panicked"

end CommandTimelines
