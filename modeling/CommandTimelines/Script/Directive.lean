import CommandTimelines.Script.Words
import CommandTimelines.Text.Lowercase
import CommandTimelines.Text.Numeral

/-!
# Directives

What a line means once its comment is gone and its placeholders are filled. `#wait ` is
followed by a number of milliseconds and `#req ` by the names of the arguments a timeline
needs; any other line is a command line, whose name is its first word, or means nothing when
it has no words. A command line may start with one of two marks, the specifiers: the silent
one suppresses feedback and is looked for first; an empty one marks nothing.
-/

namespace CommandTimelines.Script

open Text

/-- The marks that a command line may start with. -/
structure Specifiers where
  normal : String := "/"
  silent : String := "."
deriving DecidableEq, Repr

/-- A command line cut into words. -/
structure CommandLine where
  /-- Whether feedback to the actor is suppressed. -/
  silent : Bool
  /-- The line without its mark. -/
  text : String
  /-- The first word, in lower case. -/
  name : String
  /-- The other words. -/
  args : List String
deriving DecidableEq, Repr

/-- What a line means. -/
inductive Directive where
  | comment
  | wait (milliseconds : Nat)
  | require (names : List String)
  | command (line : CommandLine)
deriving DecidableEq, Repr

/-- What stands after `#wait ` and is no number of milliseconds. -/
structure InvalidInterval where
  value : String
deriving DecidableEq, Repr

/-- The wording of an invalid interval. -/
def InvalidInterval.message (fault : InvalidInterval) : String :=
  "invalid interval '" ++ fault.value ++ "' for #wait action"

/-- What a waiting line starts with. -/
def waitMark : List Char := ['#', 'w', 'a', 'i', 't', ' ']

/-- What a line that names the needed arguments starts with. -/
def requireMark : List Char := ['#', 'r', 'e', 'q', ' ']

/-- The names in a list separated by a comma and a space. There is always at least one. -/
def requiredNames : List Char → List (List Char)
  | [] => [[]]
  | ',' :: ' ' :: r => [] :: requiredNames r
  | c :: r =>
    match requiredNames r with
    | [] => [[c]]
    | n :: ns => (c :: n) :: ns

/-- A line without a mark it starts with, if the mark is not empty. -/
def dropMark? (mark : String) (line : List Char) : Option (List Char) :=
  if mark.toList = [] then none else mark.toList.isPrefixOf? line

/-- Whether a line is silent, and the line without its mark. -/
def unmark (specifiers : Specifiers) (line : List Char) : Bool × List Char :=
  match dropMark? specifiers.silent line with
  | some rest => (true, rest)
  | none =>
    match dropMark? specifiers.normal line with
    | some rest => (false, rest)
    | none => (false, line)

/-- What a command line means when `split` cuts it into words. -/
def Directive.ofCommandLine (specifiers : Specifiers) (line : List Char)
    (split : List Char → List (List Char) := Words.split) : Directive :=
  let (silent, text) := unmark specifiers line
  match split text with
  | [] => .comment
  | name :: args =>
    .command
      { silent
        text := String.ofList text
        name := lower (String.ofList name)
        args := args.map String.ofList }

/-- What a line means when `split` cuts command lines into words. -/
def Directive.read (specifiers : Specifiers) (line : List Char)
    (split : List Char → List (List Char) := Words.split) : Except InvalidInterval Directive :=
  match waitMark.isPrefixOf? line with
  | some rest =>
    match word? (trim rest) with
    | some milliseconds => .ok (.wait milliseconds)
    | none => .error ⟨String.ofList rest⟩
  | none =>
    match requireMark.isPrefixOf? line with
    | some rest => .ok (.require ((requiredNames rest).map String.ofList))
    | none => .ok (.ofCommandLine specifiers line split)

end CommandTimelines.Script
