import CommandTimelines.Text.Pieces

/-!
# Paths

A path is a text of pieces separated by slashes. A piece that is empty or a single dot adds
nothing to where the path leads, and two dots lead back up.

`Path.key?` gives the spelling under which a timeline is known: the path's telling pieces
joined by single slashes, provided that the path stays below the folder it starts from.
`Path.stem?` and `Path.folder?` give the name without its extension and the folder part, as
the path spells it.
-/

namespace CommandTimelines.Path

open Text

/-- A piece that adds nothing to where a path leads. -/
def isIdle (piece : List Char) : Bool := piece == [] || piece == ['.']

/-- The piece that leads back up. -/
def upward : List Char := ['.', '.']

/-- Whether a path starts from the root of the file system. -/
def isAbsolute (path : List Char) : Bool := path.head? == some '/'

/-- The pieces that tell where a path leads. -/
def telling (path : List Char) : List (List Char) :=
  (pieces '/' path).filter (!isIdle ·)

/-- Pieces put together to a path. -/
def ofPieces (ps : List (List Char)) : List Char := ['/'].intercalate ps

/-- The spelling under which a path below the starting folder is known; none if the path may
lead anywhere else, or nowhere. -/
def key? (path : String) : Option String :=
  let chars := path.toList
  if isAbsolute chars || (pieces '/' chars).contains upward || telling chars == [] then none
  else some (String.ofList (ofPieces (telling chars)))

/-- A path resolved against a folder. An absolute path stands for itself. -/
def resolve (folder path : String) : String :=
  if isAbsolute path.toList || folder == "" then path
  else if folder.toList.getLast? = some '/' then folder ++ path
  else folder ++ "/" ++ path

/-- Pieces without the idle ones at their end. -/
def dropIdleEnd (ps : List (List Char)) : List (List Char) :=
  (ps.reverse.dropWhile isIdle).reverse

/-- The last telling piece of a path and the path of the folder that holds it. A dot that a
path starts with counts as a piece; the root of the file system does not. -/
def leaf? (path : List Char) : Option (List Char × List Char) :=
  match pieces '/' path with
  | [] => none
  | first :: rest =>
    match (dropIdleEnd rest).reverse with
    | [] => if first = [] then none else some (first, [])
    | last :: before =>
      match dropIdleEnd before.reverse with
      | [] => some (last, if first = [] then ['/'] else first)
      | folders => some (last, ofPieces (first :: folders))

/-- A name without its last extension. A dot at the very start opens no extension. -/
def withoutExtension (name : List Char) : List Char :=
  match name.reverse.dropWhile (· ≠ '.') with
  | _ :: c :: r => (c :: r).reverse
  | _ => name

/-- What follows the last dot of a name that does not start with it. -/
def extensionOf? (name : List Char) : Option (List Char) :=
  match name.reverse.dropWhile (· ≠ '.') with
  | _ :: _ :: _ => some (name.reverse.takeWhile (· ≠ '.')).reverse
  | _ => none

/-- The extension of the file that a path leads to. -/
def extension? (path : List Char) : Option (List Char) :=
  match leaf? path with
  | none => none
  | some (last, _) => if last == upward then none else extensionOf? last

/-- The name of the file that a path leads to, without its extension. -/
def stem? (path : List Char) : Option (List Char) :=
  match leaf? path with
  | none => none
  | some (last, _) =>
    if isIdle last || last == upward then none else some (withoutExtension last)

/-- The path to what lies next to the end of a path under a longer name; none if the path ends
in no name. -/
def lengthened? (ending path : List Char) : Option (List Char) :=
  match leaf? path with
  | none => none
  | some (last, _) =>
    if isIdle last || last == upward then none
    else some (ofPieces (dropIdleEnd (pieces '/' path)) ++ ending)

/-- The folder that holds what a path leads to, as the path spells it; none if the path names
no folder. -/
def folder? (path : List Char) : Option (List Char) :=
  match leaf? path with
  | none => none
  | some (_, folder) => if folder = [] then none else some folder

end CommandTimelines.Path
