import CommandTimelines.Host.Actor
import CommandTimelines.Path

/-!
# Who may use a timeline

Each timeline file has permission nodes that open it to a player: one for the name of the
file without its extension and one for the folder it lies in, the latter in two spellings
when the folder's path has several pieces. One further node opens every timeline.
-/

namespace CommandTimelines.Permission

open Host

/-- The node that opens every timeline. -/
def everyTimeline : String := "timeline.admin.useall"

/-- A text with one character put for another. -/
def replaceChar (old new : Char) (s : List Char) : List Char :=
  s.map fun c => if c = old then new else c

/-- The node for the name of a file or for a folder. -/
def node (name : List Char) : String := "timeline.use-" ++ String.ofList name

/-- The nodes of a folder: with slashes, and also with backslashes if it has any slash. -/
def folderNodes (folder : List Char) : List String :=
  if folder.contains '/' then [node folder, node (replaceChar '/' '\\' folder)]
  else [node folder]

/-- The nodes that open a file. Slashes and backslashes separate alike. -/
def nodes (file : String) : List String :=
  let path := replaceChar '\\' '/' file.toList
  (match Path.stem? path with
    | some stem => [node stem]
    | none => [])
  ++ (match Path.folder? path with
    | some folder => folderNodes folder
    | none => [])

/-- Whether an actor may start and stop a file. -/
def mayUse (actor : Actor) (file : String) : Bool :=
  actor.holds everyTimeline || (nodes file).any actor.holds

end CommandTimelines.Permission
