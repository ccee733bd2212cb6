import CommandTimelines.Operator.Request
import CommandTimelines.Server.Start
import CommandTimelines.Server.Stop

/-!
# Serving operators

A request of an operator is checked against the actor's permissions before anything else is
looked at: someone who may not use a file learns nothing about it, not even whether it
exists. Whatever comes of the request is answered as feedback, at once or, for a stop that
was granted, when the run has ended.
-/

namespace CommandTimelines.Server

open Host Operator

variable (s : Server)

/-- The error of a result, if it is one. -/
def errorOf? {α : Type} : Except TimelineError α → Option TimelineError
  | .ok _ => none
  | .error error => some error

/-- The server after a request that the actor may make. -/
def grant (ticket : Ticket) (files : Files) : Request → Server
  | .start file args =>
    let (s, result) := s.start files file args
    s.answer ticket (.feedback (startFeedback file (errorOf? result)))
  | .stop file => s.stop ticket (.operator file) file
  | .list => s.answer ticket (.feedback (listing s.running))
  | .unclear _ => s.answer ticket (.feedback usage)

/-- The server after a request that names a file the actor may not use. -/
def refuse (ticket : Ticket) (actor : Actor) (file : String) : Server :=
  (s.log (.denied actor.name file)).answer ticket (.feedback noAccess)

/-- The server after an actor has used the operator's command with the given words. -/
def execute (ticket : Ticket) (files : Files) (actor : Actor) (args : List String) : Server :=
  let request := Request.ofArgs args
  match request.forbidden? actor with
  | some file => s.refuse ticket actor file
  | none => s.grant ticket files request

end CommandTimelines.Server
