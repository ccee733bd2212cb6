import CommandTimelines.Error
import CommandTimelines.Script.Action

/-!
# Log notes

What the server writes to its log, each kind of note with its level and its wording.
-/

namespace CommandTimelines

open Text Script

/-- How important a note is. -/
inductive Level where
  | error
  | warn
  | info
  | debug
  | trace
deriving DecidableEq, Repr

/-- The name of a level. -/
def Level.name : Level → String
  | .error => "ERROR"
  | .warn => "WARN"
  | .info => "INFO"
  | .debug => "DEBUG"
  | .trace => "TRACE"

/-- The rank of a level, the most important first. -/
def Level.rank : Level → Nat
  | .error => 0
  | .warn => 1
  | .info => 2
  | .debug => 3
  | .trace => 4

/-- The levels. -/
def Level.all : List Level := [.error, .warn, .info, .debug, .trace]

/-- The level with a name, in any case of its letters. -/
def Level.named? (name : String) : Option Level :=
  Level.all.find? fun l => sameLetters l.name name

/-- A note in the log. -/
inductive Note where
  | compiled (name : String) (actions : Nat)
  | starting (name : String) (actions arguments : Nat)
  | notStarted (name : String) (error : TimelineError)
  /-- An action of the body is about to run. -/
  | beginning (name : String) (action : Action)
  | stepFailed (name : String) (line : Nat) (error : StepError)
  | waitInterrupted (milliseconds : Nat)
  /-- Nobody awaits the response that an action delivers. -/
  | unawaited (key : String)
  /-- A stopped run leaves actions undone. -/
  | cutShort (name : String) (undone : Nat)
  | finished (name : String)
  | cleanUpFailed (name : String) (line : Nat) (error : StepError)
  | stopping (name : String)
  | stopped (name : String)
  | stoppedAll (count : Nat)
  | denied (actor file : String)
  /-- A command was called on behalf of an actor. -/
  | executed (actor raw : String)
deriving DecidableEq, Repr

/-- The level of a note. -/
def Note.level : Note → Level
  | .compiled _ _ => .debug
  | .starting _ _ _ => .info
  | .notStarted _ _ => .warn
  | .beginning _ _ => .trace
  | .stepFailed _ _ _ => .warn
  | .waitInterrupted _ => .trace
  | .unawaited _ => .debug
  | .cutShort _ _ => .debug
  | .finished _ => .info
  | .cleanUpFailed _ _ _ => .warn
  | .stopping _ => .info
  | .stopped _ => .info
  | .stoppedAll _ => .info
  | .denied _ _ => .debug
  | .executed _ _ => .info

/-- The wording of a note. -/
def Note.message : Note → String
  | .compiled name actions =>
    "Compiled " ++ toString actions ++ " action(s) from " ++ name ++ "."
  | .starting name actions arguments =>
    "Starting timeline " ++ name ++ " with " ++ toString actions ++ " action(s) and "
      ++ toString arguments ++ " argument(s)."
  | .notStarted name error =>
    "Could not start timeline " ++ name ++ ": " ++ error.message ++ " [" ++ error.label
      ++ "]"
  | .beginning name action =>
    "Timeline " ++ name ++ " line " ++ toString action.line ++ ": " ++ action.summary
  | .stepFailed name line error =>
    "Timeline " ++ name ++ " had an error at line " ++ toString line ++ ": "
      ++ error.message ++ " [" ++ error.label ++ "]"
  | .waitInterrupted milliseconds =>
    "Wait of " ++ durationText milliseconds ++ " interrupted by cancellation."
  | .unawaited key => "No response is awaiting '" ++ key ++ "'; skipping."
  | .cutShort name undone =>
    "Timeline " ++ name ++ " cancelled with " ++ toString undone ++ " action(s) left."
  | .finished name => "Timeline " ++ name ++ " finished."
  | .cleanUpFailed name line error =>
    "Clean-up of timeline " ++ name ++ " failed at line " ++ toString line ++ ": "
      ++ error.message
  | .stopping name => "Stopping timeline " ++ name ++ "..."
  | .stopped name => "Timeline " ++ name ++ " was stopped."
  | .stoppedAll count => "Stopped " ++ toString count ++ " running timeline(s)."
  | .denied actor file =>
    actor ++ " was denied access to timeline " ++ file ++ "."
  | .executed actor raw => actor ++ " executed: /" ++ raw

/-- A note as it stands in the log. -/
def Note.line (note : Note) : String := note.level.name ++ " " ++ note.message

/-- Whether a note is at least as important as a level. -/
def Note.isAtLeast (level : Level) (note : Note) : Bool := note.level.rank ≤ level.rank

end CommandTimelines
