import CommandTimelines.Host.Command
import CommandTimelines.Text.Duration
import CommandTimelines.Text.Pieces
import CommandTimelines.Text.Quoted

/-!
# Actions

The steps that a script is compiled to. An action remembers the line it comes from and holds
everything it needs: nothing is looked up again when it runs, except for the response that a
delivery is meant for.
-/

namespace CommandTimelines.Script

open Host Text

/-- A step of a timeline. -/
inductive Action where
  /-- Waits for a number of milliseconds. -/
  | delay (line milliseconds : Nat)
  /-- Runs a command, typed as `name`, for the console. -/
  | invoke (line : Nat) (name : String) (command : Command) (raw : String) (silent : Bool)
      (args : List String)
  /-- Hands the line to whoever awaits a response under `key`, if anyone does by then. -/
  | deliver (line : Nat) (key raw : String) (args : List String)
deriving DecidableEq, Repr

/-- The line an action comes from. -/
def Action.line : Action → Nat
  | .delay line _ => line
  | .invoke line _ _ _ _ _ => line
  | .deliver line _ _ _ => line

/-- An action in a few words. -/
def Action.summary : Action → String
  | .delay _ milliseconds => "wait " ++ toString milliseconds ++ "ms"
  | .invoke _ _ _ raw _ _ => "/" ++ raw
  | .deliver _ key _ _ => "response '" ++ key ++ "'"

/-- A record with its fields, given as texts. -/
private def recordText (name : String) (fields : List (String × String)) (isWhole : Bool) :
    String :=
  let shown := fields.map fun f => f.1 ++ ": " ++ f.2
  name ++ " \x7b " ++ join ", " (if isWhole then shown else shown ++ [".."]) ++ " \x7d"

/-- An action with its fields, texts quoted. -/
def Action.details : Action → String
  | .delay line milliseconds =>
    recordText "Delay"
      [("line", toString line), ("duration", durationText milliseconds)] true
  | .invoke line name _ _ silent args =>
    recordText "Invoke"
      [("line", toString line), ("command", quote name), ("silent", toString silent),
        ("args", quoteList args)] false
  | .deliver line key _ args =>
    recordText "ResponseDelivery"
      [("line", toString line), ("key", quote key), ("args", quoteList args)] false

end CommandTimelines.Script
