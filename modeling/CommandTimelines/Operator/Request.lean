import CommandTimelines.Permission
import CommandTimelines.Text.Lowercase

/-!
# Requests of operators

The operator's command starts, stops and lists timelines. `Request.ofArgs` reads what is asked
for off the words after the command's name, and `Request.forbidden?` gives the file that keeps an
actor from asking for it: whatever names a file, even if it is not understood, needs access to
that file, and the list is open to everyone.
-/

namespace CommandTimelines.Operator

open Host Text

/-- The names of the operator's command. -/
def commandNames : List String := ["timeline", "tl"]

/-- Whether a name is one of the operator's command. -/
def answersTo (name : String) : Bool := commandNames.any (sameLetters · name)

/-- What an operator asks for. -/
inductive Request where
  | start (file : String) (args : List String)
  | stop (file : String)
  | list
  /-- Nothing that is understood; the word in the place of the file, if there is one. -/
  | unclear (file : Option String)
deriving DecidableEq, Repr

/-- What the words after the command's name ask for. -/
def Request.ofArgs : List String → Request
  | [] => .unclear none
  | word :: rest =>
    if lower word = "show" then .list
    else match rest with
      | [] => .unclear none
      | file :: args =>
        if lower word = "start" then .start file args
        else if lower word = "stop" then .stop file
        else .unclear (some file)

/-- The file that a request names. -/
def Request.file? : Request → Option String
  | .start file _ => some file
  | .stop file => some file
  | .list => none
  | .unclear file => file

/-- The file that a request names although the actor may not use it. -/
def Request.forbidden? (actor : Actor) (request : Request) : Option String :=
  request.file?.filter fun file => !Permission.mayUse actor file

end CommandTimelines.Operator
