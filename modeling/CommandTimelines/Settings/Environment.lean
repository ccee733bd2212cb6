import CommandTimelines.Settings.Tree
import CommandTimelines.Text.Fraction
import CommandTimelines.Text.Pieces

/-!
# Settings from the environment

An environment variable whose name starts with `TIMELINE_`, in any case of the letters, gives
a value for the place that the rest of its name means. Its text counts as a truth value or a
number if it looks like one; the clean-up lines stand in one text with semicolons between them.
-/

namespace CommandTimelines.Environment

open Text Settings

/-- The name of a variable and its text. -/
abbrev Variable : Type := String × String

/-- What the names of the variables start with, in lower case. -/
def namePrefix : List Char := "timeline_".toList

/-- The place that a variable gives a value for. -/
def place? (name : String) : Option String :=
  (namePrefix.isPrefixOf? (lower name).toList).map String.ofList

/-- The value that the text of a variable gives for a place. -/
def value (place text : String) : Tree :=
  if lower text = "true" then .boolean true
  else if lower text = "false" then .boolean false
  else match (integer? text.toList).filter fitsSigned with
    | some n => .integer n
    | none =>
      match fraction? text.toList with
      | some x => .fraction x
      | none =>
        if place = "cleanup" then .list ((splitAt ';' text).map .text) else .text text

/-- What an environment gives. -/
def source (env : List Variable) : Source :=
  env.filterMap fun (name, text) => (place? name).map fun place => (place, value place text)

/-- The variables that the settings come from, in their usual spelling. -/
def settingNames : List String :=
  ["TIMELINE_ROOT", "TIMELINE_SPECIFIER", "TIMELINE_SILENT_SPECIFIER", "TIMELINE_CLEANUP",
    "TIMELINE_EVENT_CAPACITY"]

/-- The text of a variable. -/
def text? (env : List Variable) (name : String) : Option String := env.lookup name

end CommandTimelines.Environment
