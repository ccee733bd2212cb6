import CommandTimelines.Toml.Reader

/-!
# Documents of TOML

A document is read line by line: a header says which table the lines after it belong to, and
every other line defines a key of that table or holds nothing.
-/

namespace CommandTimelines.Toml

/-- The tables of a document so far, and the table at hand, as the path of its header. -/
structure Document where
  root : Table
  here : List String

namespace Document

/-- A document without lines. -/
def empty : Document := ⟨.empty .header, []⟩

/-- The document after the header of a table. -/
def openTable (d : Document) (path : List String) (key : String) : Option Document :=
  (d.root.openTable path key).map fun root => ⟨root, path ++ [key]⟩

/-- The document after the header of an element of a list of tables. -/
def openElement (d : Document) (path : List String) (key : String) : Option Document :=
  (d.root.openElement path key).map fun root => ⟨root, path ++ [key]⟩

/-- The document with a key of the table at hand. -/
def define (d : Document) (path : List String) (key : String) (value : Value) :
    Option Document :=
  (Table.grow false (·.define path key value) d.here d.root).map fun root => { d with root }

/-- The document after the line ahead, its end apart. -/
def line? (d : Document) (s : List Char) : Option (Document × List Char) :=
  match skipSpaces s with
  | [] => some (d, [])
  | '#' :: r => some (d, '#' :: r)
  | '\n' :: r => some (d, '\n' :: r)
  | '\r' :: r => some (d, '\r' :: r)
  | '[' :: '[' :: r => do
    let ((path, key), r) ← dottedKey? r
    match r with
    | ']' :: ']' :: r => (d.openElement path key).map fun d => (d, r)
    | _ => none
  | '[' :: r => do
    let ((path, key), r) ← dottedKey? r
    match r with
    | ']' :: r => (d.openTable path key).map fun d => (d, r)
    | _ => none
  | s => do
    let ((path, key), r) ← dottedKey? s
    match r with
    | '=' :: r =>
      let (value, r) ← value? (skipSpaces r)
      (d.define path key value).map fun d => (d, r)
    | _ => none

/-- The document after at most `n` lines. -/
def linesIn? : Nat → Document → List Char → Option Document
  | 0, d, s => if s = [] then some d else none
  | n + 1, d, s =>
    if s = [] then some d
    else do
      let (d, r) ← d.line? s
      let r ← lineEnd? r
      linesIn? n d r

/-- The table that a text denotes. A byte order mark at its start does not count. -/
def read? (s : String) : Option Table :=
  let chars := match s.toList with
    | '\ufeff' :: r => r
    | r => r
  (linesIn? chars.length empty chars).map (·.root)

end Document

end CommandTimelines.Toml
