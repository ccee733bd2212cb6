/-!
# Values of TOML

What a TOML document holds: a table of texts, numbers, truth values, dates and times, lists and
further tables. A document defines its tables piecemeal, under headers and by dotted keys, and
each piece may be defined once only; so a table remembers how it came to be. `grow` works on the
table that a path of keys leads to and creates the tables on the way.
-/

namespace CommandTimelines.Toml

/-- How a table came to be. -/
inductive Origin where
  /-- Under a header of its own; the document as a whole counts as such a table. -/
  | header
  /-- On the way of a longer header. -/
  | passage
  /-- On the way of a dotted key. -/
  | dotted
  /-- Between braces, complete as it stands. -/
  | braces
deriving DecidableEq, Repr

/-- A value. -/
inductive Value where
  | text (s : String)
  | integer (n : Int)
  | fraction (x : Float)
  | boolean (b : Bool)
  /-- A date, a time of day or both, in its usual spelling. -/
  | moment (s : String)
  /-- A list. One that headers have begun `grows`; its last element is the table at hand. -/
  | list (grows : Bool) (items : List Value)
  | table (origin : Origin) (entries : List (String × Value))
deriving Repr

/-- The entries of a table and how it came to be. -/
structure Table where
  origin : Origin
  entries : List (String × Value)
deriving Repr

namespace Table

/-- A table without entries. -/
def empty (origin : Origin) : Table := ⟨origin, []⟩

/-- The value under a key. -/
def get? (t : Table) (key : String) : Option Value := t.entries.lookup key

/-- The table with a value put under a key, in place of the one there. -/
def put (t : Table) (key : String) (value : Value) : Table :=
  if (t.get? key).isSome then
    { t with entries := t.entries.map fun e => if e.1 = key then (key, value) else e }
  else { t with entries := t.entries ++ [(key, value)] }

/-- The table with a value put under a key, after everything else in it. -/
def append (t : Table) (key : String) (value : Value) : Table :=
  { t with entries := t.entries.filter (·.1 ≠ key) ++ [(key, value)] }

/-- A table as a value. -/
def toValue (t : Table) : Value := .table t.origin t.entries

/-- The table at hand where a path meets a value: a table that is not complete yet, or the
last one of a list begun by headers. A dotted key does not reach into a table that has a
header. -/
def openedBy (byDots : Bool) : Value → Option (Table × (Table → Value))
  | .table .braces _ => none
  | .table origin entries =>
    if byDots && origin == .header then none else some (⟨origin, entries⟩, toValue)
  | .list true items =>
    match items.getLast? with
    | some (.table origin entries) =>
      some (⟨origin, entries⟩, fun t => .list true (items.dropLast ++ [t.toValue]))
    | _ => none
  | _ => none

/-- The table with a change made to the table that a path leads to. Tables missing on the way
are created; the result is none if something else is in the way or if the change fails. -/
def grow (byDots : Bool) (change : Table → Option Table) : List String → Table → Option Table
  | [], t => change t
  | key :: rest, t =>
    match t.get? key with
    | none => do
      let new ← grow byDots change rest (empty (if byDots then .dotted else .passage))
      return t.put key new.toValue
    | some value => do
      let (inner, restore) ← openedBy byDots value
      let new ← grow byDots change rest inner
      return t.put key (restore new)

/-- The table with a new key. A key is defined once, and dots add only to tables that dots have
made. -/
def define (path : List String) (key : String) (value : Value) : Table → Option Table :=
  grow true
    (fun t =>
      if (t.get? key).isSome || (path ≠ [] && t.origin ≠ .dotted) then none
      else some (t.put key value))
    path

/-- The table with the table of a header. It must be new, or so far only have been passed
through, and takes its place among the keys with its own header. -/
def openTable (path : List String) (key : String) : Table → Option Table :=
  grow false
    (fun t =>
      match t.get? key with
      | none => some (t.append key (.table .header []))
      | some (.table .passage entries) => some (t.append key (.table .header entries))
      | some _ => none)
    path

/-- The table with one more element of the list of a header. -/
def openElement (path : List String) (key : String) : Table → Option Table :=
  grow false
    (fun t =>
      match t.get? key with
      | none => some (t.put key (.list true [.table .header []]))
      | some (.list true items) => some (t.put key (.list true (items ++ [.table .header []])))
      | some _ => none)
    path

end Table

end CommandTimelines.Toml
