import CommandTimelines.Program.Output

/-!
# Demonstration commands

The few server commands that the programs come with, and what they print when they are called.
-/

namespace CommandTimelines.Program

open Host Text

/-- Says a message in the name of the actor. -/
def say : Command :=
  { given := ["say"], isAudited := false, help := some "Says a message to everyone." }

/-- Shows a message to everyone. -/
def broadcast : Command :=
  { given := ["broadcast", "bc"], help := some "Broadcasts a message in the server color." }

/-- Fails. -/
def fail : Command :=
  { given := ["fail"]
    help := some "Always fails. Useful for testing step errors."
    behaviour := .fail (Actor.console.name ++ " asked to fail") [] }

/-- Asks for a response before it goes on. -/
def confirm : Command :=
  { given := ["confirm"]
    help := some "Asks for a /yes confirmation."
    behaviour := .ask "yes" .succeed }

/-- Takes a player home. -/
def home : Command :=
  { given := ["home"]
    allowsConsole := false
    help := some "Teleports a player to spawn. Players only." }

/-- What a question was about. -/
def subject (question : Invocation) : String :=
  if question.args = [] then "the action" else join " " question.args

/-- What a call prints. -/
def printedBy (call : Call) : List String :=
  let actor := call.invocation.actor.name
  let message := join " " call.invocation.args
  match call.target with
  | .response awaiting =>
    match awaiting.question with
    | none => []
    | some question => [actor ++ " confirmed " ++ subject question ++ "."]
  | .command command =>
    if command = say then ["[" ++ actor ++ "] " ++ message]
    else if command = broadcast then [message]
    else if command = confirm then
      if call.invocation.silent then [] else ["Type /yes to confirm."]
    else if command = home then ["Teleporting " ++ actor ++ " home."]
    else []

/-- What an entry of the journal shows: the notes of some importance, what calls print, and
feedback. -/
def shownOf (entry : Entry) : List Shown :=
  match entry.fact with
  | .noted note =>
    if note.isAtLeast .info then [⟨entry.time, .logged note.level note.message⟩] else []
  | .called _ call => printed entry.time (printedBy call)
  | .answered _ (.feedback feedback) => printed entry.time [feedback.message]
  | _ => []

/-- What the entries show that a journal has got since it had a length. -/
def shownSince (length : Nat) (s : Server) : List Shown :=
  (s.journal.take (s.journal.length - length)).reverse.flatMap shownOf

end CommandTimelines.Program
