import CommandTimelines.Text.Pieces

/-!
# Files

A small tree of files: what lies at each path, a path being its pieces from the top. Reading
walks the pieces from the top down, and what it meets first decides how it fails.
-/

namespace CommandTimelines

open Text

/-- What a file holds. -/
inductive Content where
  | text (content : String)
  /-- Bytes that are not UTF-8. -/
  | binary
deriving DecidableEq, Repr

/-- The content that bytes make up. -/
def Content.ofBytes (bytes : ByteArray) : Content :=
  match String.fromUTF8? bytes with
  | some content => .text content
  | none => .binary

/-- What lies at a path. -/
inductive Node where
  | folder
  | file (content : Content)
deriving DecidableEq, Repr

/-- Why a file cannot be read. -/
inductive FileFault where
  | missing
  | isFolder
  /-- Something on the way to the file is no folder. -/
  | notFolder
  | nameTooLong
  | nulInName
  | notText
deriving DecidableEq, Repr

/-- The wording of a fault that is more than a missing file. -/
def FileFault.message : FileFault → String
  | .missing => "No such file or directory (os error 2)"
  | .isFolder => "Is a directory (os error 21)"
  | .notFolder => "Not a directory (os error 20)"
  | .nameTooLong => "File name too long (os error 36)"
  | .nulInName => "file name contained an unexpected NUL byte"
  | .notText => "stream did not contain valid UTF-8"

/-- A tree of files, as what lies at each path below its top. -/
structure Files where
  nodes : List (List String × Node) := []
deriving DecidableEq, Repr

namespace Files

/-- The most bytes that a name may have. -/
def nameLimit : Nat := 255

/-- The most bytes that a path may have. -/
def pathLimit : Nat := 4095

/-- The pieces of a path that lead on. -/
def pathOf (path : String) : List String :=
  (splitAt '/' path).filter (fun p => p ≠ "" && p ≠ ".")

/-- What lies at a path. The top is a folder. -/
def node? (files : Files) : List String → Option Node
  | [] => some .folder
  | path => (files.nodes.find? (·.1 == path)).map (·.2)

/-- The tree with a node set down at a path. -/
def set (files : Files) (path : List String) (node : Node) : Files :=
  ⟨(path, node) :: files.nodes.filter (·.1 ≠ path)⟩

/-- The tree with every folder on the way to a path, as far as nothing else stands there. -/
def withFolders (files : Files) (done : List String) : List String → Files
  | [] => files
  | p :: rest =>
    let here := done ++ [p]
    let files := if (files.node? here).isSome then files else files.set here .folder
    files.withFolders here rest

/-- The tree with a node written at a path, and the folders on the way to it. -/
def write (files : Files) (path : List String) (node : Node) : Files :=
  (files.withFolders [] path.dropLast).set path node

/-- The tree without what lies at a path or below it. -/
def remove (files : Files) (path : List String) : Files :=
  ⟨files.nodes.filter (!path.isPrefixOf ·.1)⟩

/-- The tree with the given nodes, written in turn. -/
def ofList (nodes : List (String × Node)) : Files :=
  nodes.foldl (fun files n => files.write (pathOf n.1) n.2) {}

/-- What comes of a walk that has left the tree. No file is known there, but a name may still be
too long. -/
def readOutside : List String → Except FileFault String
  | [] => .error .isFolder
  | p :: rest =>
    if p = ".." then readOutside rest
    else if nameLimit < p.utf8ByteSize then .error .nameTooLong
    else .error .missing

/-- The text of the file that a walk leads to. `above` are the pieces already walked, which
lead to `here`. -/
def readFrom (files : Files) (above : List String) (here : Node) :
    List String → Except FileFault String
  | [] =>
    match here with
    | .folder => .error .isFolder
    | .file .binary => .error .notText
    | .file (.text content) => .ok content
  | p :: rest =>
    match here with
    | .file _ => .error .notFolder
    | .folder =>
      if p = ".." then
        match above with
        | [] => readOutside rest
        | _ => files.readFrom above.dropLast .folder rest
      else if nameLimit < p.utf8ByteSize then .error .nameTooLong
      else
        match files.node? (above ++ [p]) with
        | none => .error .missing
        | some node => files.readFrom (above ++ [p]) node rest

/-- Whether only a folder can lie at a path, since it ends in a slash or in a dot. -/
def asksForFolder (path : String) : Bool :=
  (splitAt '/' path).getLast?.any fun last => last == "" || last == "."

/-- What has been read at a path, which fails if the path asks for a folder. -/
def readAsAsked (path : String) : Except FileFault String → Except FileFault String
  | .ok content => if asksForFolder path then .error .notFolder else .ok content
  | .error .notText => if asksForFolder path then .error .notFolder else .error .notText
  | .error fault => .error fault

/-- The text of the file at a path below the top. -/
def read (files : Files) (path : String) : Except FileFault String :=
  if path.toList.contains '\x00' then .error .nulInName
  else if pathLimit < path.utf8ByteSize then .error .nameTooLong
  else if path.toList.head? = some '/' then readOutside (pathOf path)
  else readAsAsked path (files.readFrom [] .folder (pathOf path))

/-- Whether a file lies at a path below the top. -/
def isFile (files : Files) (path : String) : Bool :=
  match files.read path with
  | .ok _ => true
  | .error fault => fault == .notText

end Files

end CommandTimelines
