import CommandTimelines.Server.Stop

/-!
# Calling handlers

A call is written to the journal before its handler does anything. An awaited response is
gone before its handler is called, whatever becomes of the call; a response that the handler
itself asks for stays.
-/

namespace CommandTimelines.Server

open Host Script

variable (s : Server)

/-- The server with one more command. -/
def register (c : Command) : Server := { s with commands := s.commands ++ [c] }

/-- The server with a response awaited, in place of the one under its key. -/
def expect (a : Awaiting) : Server := { s with awaiting := Awaiting.register s.awaiting a }

/-- What a handler does to the server. -/
def react (invocation : Invocation) : Behaviour → Server
  | .ask key answer => s.expect ⟨key, answer, some invocation⟩
  | .stop =>
    let file := invocation.args.headD ""
    s.stop ⟨none, file⟩ .program file
  | _ => s

/-- The server after a call of a handler. -/
def call (caller : Option Work) (c : Call) : Server :=
  (s.record (.called caller c)).react c.invocation c.target.behaviour

/-- The server after a call of a command. The audit log gets a note if both the command and
the call want one. -/
def callCommand (caller : Option Work) (c : Command) (invocation : Invocation) : Server :=
  let s :=
    if c.isAudited && invocation.isLogged then
      s.log (.executed invocation.actor.name invocation.raw)
    else s
  s.call caller ⟨.command c, invocation⟩

/-- The server after calls of commands in turn, and what becomes of them. -/
def callEach (invocation : Invocation) : Server → List Command → Server × List Outcome
  | s, [] => (s, [])
  | s, c :: rest =>
    let (s, outcomes) := callEach invocation (s.callCommand none c invocation) rest
    (s, c.behaviour.outcome :: outcomes)

/-- The server after a call of the handler that awaits a response, and what becomes of the
call; none if nobody awaits it. -/
def respond? (caller : Option Work) (key : String) (invocation : Invocation) :
    Option (Server × Outcome) :=
  (Awaiting.take s.awaiting key).map fun (a, rest) =>
    let call : Call := ⟨.response a, invocation⟩
    (Server.call { s with awaiting := rest } caller call, call.outcome)

/-- A failed step, if a call failed. -/
def stepError? (ofChain : List String → StepError) : Outcome → Option StepError
  | .done => none
  | .failed chain => some (ofChain chain)
  | .panicked message => some (.panicked message)

/-- How the handler that an action at work calls will fail, as things stand. -/
def failure? (work : Work) : Option StepError :=
  match work.action with
  | .delay _ _ => none
  | .invoke _ name c _ _ _ => stepError? (.command name) c.behaviour.outcome
  | .deliver _ key _ _ =>
    (Awaiting.take s.awaiting key).bind fun (a, _) =>
      stepError? (.response key) a.behaviour.outcome

/-- The server after an action at work has called its handler. -/
def carryOut (work : Work) : Server :=
  match work.action with
  | .delay _ _ => s
  | .invoke _ _ c raw silent args => s.callCommand (some work) c { raw, silent, args }
  | .deliver _ key raw args =>
    match s.respond? (some work) key { raw, args } with
    | none => s.log (.unawaited key)
    | some (s', _) => s'

end CommandTimelines.Server
