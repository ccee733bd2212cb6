import CommandTimelines.Path
import CommandTimelines.Script.Compile
import CommandTimelines.Server.Basic

/-!
# Starting

A start has two phases. First the file is read, which looks at nothing but the files. Then,
in one step, the text that was read is compiled with the arguments of the same call and the
run is set up, unless the timeline is running. Between the two anything may happen. A timeline
keeps neither the text nor the arguments of a start, failed or not: the next start brings its
own.
-/

namespace CommandTimelines

open Script Text

/-- A start that has read its file. -/
structure Opening where
  key : String
  text : String
  args : List String
deriving DecidableEq, Repr

/-- The first phase of a start: reading the file. -/
def Opening.read (root : String) (files : Files) (file : String) (args : List String) :
    Except TimelineError Opening :=
  match Path.key? file with
  | none => .error (.invalidPath file)
  | some key =>
    match files.read (Path.resolve root key) with
    | .ok text => .ok ⟨key, text, args⟩
    | .error .missing => .error (.notFound key)
    | .error fault => .error (.unreadable fault)

namespace Server

variable (s : Server)

/-- What scripts are read against. -/
def scope (name : String) (params : List String) : Scope :=
  { name, params, commands := s.commands, specifiers := s.settings.specifiers }

/-- The actions of the body that a start would run. -/
def bodyOf (o : Opening) : Except TimelineError (List Action) :=
  (s.scope o.key o.args).compile o.text

/-- The actions of the clean-up that a start would run. -/
def cleanUpOf (o : Opening) : Except TimelineError (List Action) :=
  (s.scope o.key []).compileBody (join "\n" s.settings.cleanUp)

/-- The server with a timeline known under a key. -/
def enroll (key : String) : Server :=
  if (s.timeline? key).isSome then s
  else { s with timelines := s.timelines ++ [({ key } : Timeline)] }

/-- The server after a start that could not be compiled. -/
def decline (key : String) (error : TimelineError) : Server :=
  s.log (.notStarted key error)

/-- The server with a new run set up. -/
def launch (o : Opening) (body cleanUp : List Action) : Server :=
  let id := s.runs.length
  let s := { s with runs := s.runs ++ [({ key := o.key, body, cleanUp } : Run)] }
  let s := s.yieldTurn id
  let s := s.updateTimeline o.key fun t => { t with current := some id }
  let s := s.log (.starting o.key body.length o.args.length)
  s.publish id (.started o.key body.length)

/-- The second phase of a start: compiling the text and setting up the run. A timeline that keeps the
text and the arguments of its latest start is given both in this step, before they are compiled, and
nothing else reads them: it comes to the same (`commitArmed_snd`). -/
def commit (o : Opening) : Server × Except TimelineError RunId :=
  if s.isActive o.key then (s, .error (.alreadyRunning o.key))
  else
    let s := s.enroll o.key
    match s.bodyOf o with
    | .error error => (s.decline o.key error, .error error)
    | .ok body =>
      let s := s.log (.compiled o.key body.length)
      match s.cleanUpOf o with
      | .error error => (s.decline o.key error, .error error)
      | .ok cleanUp => (s.launch o body cleanUp, .ok s.runs.length)

/-- Both phases of a start, with nothing in between. -/
def start (files : Files) (file : String) (args : List String) :
    Server × Except TimelineError RunId :=
  match Opening.read s.settings.root files file args with
  | .error error => (s, .error error)
  | .ok o => s.commit o

end Server

end CommandTimelines
