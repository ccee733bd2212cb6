import CommandTimelines.Error

/-!
# Feedback to operators

What an operator is told about a timeline they wanted to start, stop or see.
-/

namespace CommandTimelines.Operator

open Text

/-- A message to whoever gave a command. -/
inductive Feedback where
  | success (message : String)
  | info (message : String)
  | error (message : String)
deriving DecidableEq, Repr

/-- The message of a feedback. -/
def Feedback.message : Feedback → String
  | .success message => message
  | .info message => message
  | .error message => message

/-- How the operator's command is used. -/
def usage : Feedback :=
  .error <| "Invalid syntax! Commands: /timeline start <file> [arguments], "
    ++ "/timeline stop <file>, /timeline show"

/-- What someone without permission is told. -/
def noAccess : Feedback := .error "You do not have access to this command."

/-- What an operator is told about a file that was not started or not stopped. -/
def failure (file : String) (error : TimelineError) : Feedback :=
  .error <| match error with
    | .notFound _ => file ++ " doesn't exist!"
    | .alreadyRunning _ => file ++ " is already running."
    | .notRunning _ => file ++ " isn't running."
    | .empty _ => file ++ " has no commands to run."
    | .missingParameters names =>
      "Missing parameters! Proper syntax: /timeline start " ++ file ++ " "
        ++ parameterList names
    | .invalidWait line _ =>
      "Invalid interval for #wait action on line " ++ toString line ++ " of " ++ file
        ++ "."
    | .consoleForbidden _ command line =>
      "Cannot run /" ++ command ++ " from the console (" ++ file ++ ", line "
        ++ toString line ++ ")."
    | .unbound line cause =>
      "Could not apply parameters on line " ++ toString line ++ " of " ++ file ++ ": "
        ++ cause.message ++ "."
    | other => file ++ " could not be run: " ++ other.message

/-- What an operator is told after a start. -/
def startFeedback (file : String) : Option TimelineError → Feedback
  | none => .success (file ++ " started.")
  | some error => failure file error

/-- What an operator is told after a stop. -/
def stopFeedback (file : String) : Option TimelineError → Feedback
  | none => .success (file ++ " was stopped.")
  | some error => failure file error

/-- What an operator is told about the running timelines. -/
def listing (running : List String) : Feedback :=
  .info <| if join ", " running = "" then "No timelines are currently running."
    else "Currently running timelines: " ++ join ", " running

end CommandTimelines.Operator
