import CommandTimelines.Files
import CommandTimelines.Path
import CommandTimelines.Settings
import CommandTimelines.Settings.Document
import CommandTimelines.Settings.Environment

/-!
# Loading settings

Settings come from a file and from the environment, which has the last word; what neither gives
keeps its default. What is given for other places is passed over. Values are taken generously: a
number may stand for a text and a text of digits for a number.
-/

namespace CommandTimelines.Settings

open Text

/-! ### Taking values -/

/-- A value taken as a text. -/
def textOf? : Tree → Option String
  | .text s => some s
  | .integer n => some (toString n)
  | .fraction x => some (fractionText x)
  | .boolean b => some (toString b)
  | _ => none

/-- A text taken as a count. -/
def countOfText? (s : String) : Option Nat :=
  if lower s ∈ ["true", "on", "yes"] then some 1
  else if lower s ∈ ["false", "off", "no"] then some 0
  else word? s.toList

/-- A value taken as a count below 2 ^ 64. A fraction is rounded and held within that range. -/
def countOf? : Tree → Option Nat
  | .text s => countOfText? s
  | .integer n => if 0 ≤ n then some n.toNat else none
  | .fraction x => some x.round.toUInt64.toNat
  | .boolean b => some b.toNat
  | _ => none

/-- A value taken as a list of texts. -/
def textsOf? : Tree → Option (List String)
  | .list items => items.mapM textOf?
  | _ => none

/-- A setting that keeps its default if no value is given; none if the value given cannot be
taken. -/
def take? {α : Type} (read? : Tree → Option α) (default : α) : Option Tree → Option α
  | none => some default
  | some value => read? value

/-- The settings in a tree. -/
def ofTree? (t : Tree) : Option Settings := do
  let defaults : Settings := {}
  let root ← take? textOf? defaults.root (t.get? "root")
  let normal ← take? textOf? defaults.specifiers.normal (t.get? "specifier")
  let silent ← take? textOf? defaults.specifiers.silent (t.get? "silent_specifier")
  let cleanUp ← take? textsOf? defaults.cleanUp (t.get? "cleanup")
  let eventCapacity ← take? countOf? defaults.eventCapacity (t.get? "event_capacity")
  return { root, specifiers := { normal, silent }, cleanUp, eventCapacity }

/-! ### Sources -/

/-- The text of a settings file and its format. -/
structure File where
  format : Format
  text : String
deriving DecidableEq, Repr

/-- What a file gives, if there is one. -/
def fileSource : Option File → Except Fault Source
  | none => .ok []
  | some file => file.format.source file.text

/-- The settings in a file, if there is one, and in the environment. -/
def load (file : Option File) (env : List Environment.Variable) : Except Fault Settings := do
  let fromFile ← fileSource file
  let tree ← (Tree.table []).take fromFile
  let tree ← tree.take (Environment.source env)
  orFault .value (ofTree? tree)

/-! ### Files -/

/-- The file that settings are loaded from if no other is named. -/
def defaultFile : String := "Timelines.toml"

/-- The path of the file next to what a path leads to, with an extension added to its name. -/
def withExtension? (path extension : String) : Option String :=
  (Path.lengthened? ('.' :: extension.toList) path.toList).map String.ofList

/-- The paths with each of the extensions that tell formats, and the formats. -/
def extendedPaths (path : String) : List (String × Format) :=
  Format.extensions.filterMap fun (extension, format) =>
    (withExtension? path extension).map fun path => (path, format)

/-- The file that settings are looked for in, and its format. A file that lies at the very path
counts if its extension tells a format; if there is none, an extension may be missing from the
path. -/
def place? (files : Files) (path : String) : Option (String × Format) :=
  if files.isFile path then
    ((Path.extension? path.toList).bind fun name => Format.ofExtension? (String.ofList name)).map
      fun format => (path, format)
  else (extendedPaths path).find? fun (path, _) => files.isFile path

/-- The settings file that a path leads to. One that is no text is passed over. -/
def file? (files : Files) (path : String) : Option File :=
  (place? files path).bind fun (path, format) =>
    (files.read path).toOption.map fun text => ⟨format, text⟩

/-- The paths at which a settings file may lie. -/
def filePaths (path : Option String) : List String :=
  let path := path.getD defaultFile
  path :: (extendedPaths path).map (·.1)

/-- The settings of a program that was told of a settings file, or of none. -/
def find (files : Files) (path : Option String) (env : List Environment.Variable) :
    Except Fault Settings :=
  load (file? files (path.getD defaultFile)) env

end CommandTimelines.Settings
