import CommandTimelines.Host.Actor
import CommandTimelines.Text.Pieces

/-!
# Commands and responses

A server command answers to its names, compared up to the case of ASCII letters, and does
something when it is called. What a handler can do, as far as timelines are concerned, is a
`Behaviour`: succeed, fail, panic, ask a question whose answer will be handled by another
behaviour, or stop a timeline.
-/

namespace CommandTimelines.Host

open Text

/-- What a handler does when it is called. -/
inductive Behaviour where
  | succeed
  /-- Returns an error: a message, wrapped in each context in turn. -/
  | fail (message : String) (context : List String)
  | panic (message : String)
  /-- Awaits a response under a key, to be handled by another behaviour. -/
  | ask (key : String) (answer : Behaviour)
  /-- Stops the timeline named by the first argument. -/
  | stop
deriving DecidableEq, Repr, Inhabited

/-- A server command. -/
structure Command where
  /-- The names as they were given, the primary one first. -/
  given : List String
  /-- Whether the console, and so a timeline, may run the command. -/
  allowsConsole : Bool := true
  /-- Whether calls appear in the audit log. -/
  isAudited : Bool := true
  help : Option String := none
  behaviour : Behaviour := .succeed
deriving DecidableEq, Repr

/-- The names of a command, in lower case. -/
def Command.names (c : Command) : List String := c.given.map lower

/-- The primary name of a command, in lower case; empty if it has no name. -/
def Command.name (c : Command) : String := c.names.headD ""

/-- The primary name of a command as it was given. -/
def Command.label (c : Command) : String := c.given.headD ""

/-- Whether a command answers to a name. -/
def Command.answersTo (c : Command) (name : String) : Bool :=
  c.names.any (sameLetters · name)

/-- The commands that answer to a name, in the order of their registration. -/
def Command.allNamed (commands : List Command) (name : String) : List Command :=
  commands.filter (·.answersTo name)

/-- The commands ordered by primary name. -/
def Command.sorted (commands : List Command) : List Command :=
  sortBy (fun c d => decide (c.name ≤ d.name)) commands

/-- What a handler is called with. -/
structure Invocation where
  /-- The command line without its mark. -/
  raw : String
  /-- Whether feedback to the actor is suppressed. -/
  silent : Bool := false
  actor : Actor := .console
  args : List String := []
  /-- Whether the call may appear in the audit log. -/
  isLogged : Bool := false
deriving DecidableEq, Repr

/-- A handler that awaits a response. -/
structure Awaiting where
  /-- The key as it was given. -/
  key : String
  behaviour : Behaviour
  /-- The call that asked for the response, if a call did. -/
  question : Option Invocation := none
deriving DecidableEq, Repr

/-- Whether a response with this key is the awaited one. -/
def Awaiting.answersTo (a : Awaiting) (key : String) : Bool := lower a.key == lower key

/-- The awaited responses after a new one is registered: it replaces the one under its
key. -/
def Awaiting.register (awaiting : List Awaiting) (new : Awaiting) : List Awaiting :=
  awaiting.filter (fun a => !a.answersTo new.key) ++ [new]

/-- The handler awaiting a key, and the handlers that await other keys. -/
def Awaiting.take (awaiting : List Awaiting) (key : String) : Option (Awaiting × List Awaiting) :=
  (awaiting.find? (·.answersTo key)).map fun a =>
    (a, awaiting.filter (fun b => !b.answersTo key))

/-- What becomes of a call. -/
inductive Outcome where
  | done
  /-- The handler returned an error, with the outermost context first. -/
  | failed (chain : List String)
  | panicked (message : String)
deriving DecidableEq, Repr

/-- What becomes of a call of a handler. -/
def Behaviour.outcome : Behaviour → Outcome
  | .fail message context => .failed (context.reverse ++ [message])
  | .panic message => .panicked message
  | _ => .done

end CommandTimelines.Host
