import CommandTimelines.Settings.Fault
import CommandTimelines.Settings.Place

/-!
# Trees of settings

Everything that the sources of settings give is gathered in one tree of values. Each source
gives values for places, and a value given later takes the place of what is there; only tables
are joined. On the way to a place, names make tables and positions make lists, and whatever else
stands there gives way to them.
-/

namespace CommandTimelines.Settings

open Text

/-- A value, or a tree of values. -/
inductive Tree where
  /-- The value that says that there is none. -/
  | nothing
  | text (s : String)
  | integer (n : Int)
  | fraction (x : Float)
  | boolean (b : Bool)
  | list (items : List Tree)
  | table (entries : List (String × Tree))
deriving Repr

/-- Values by the places that they are given for. -/
abbrev Source : Type := List (String × Tree)

namespace Tree

/-! ### Tables and lists -/

/-- The entries of a table. Nothing else has any. -/
def entries : Tree → List (String × Tree)
  | .table entries => entries
  | _ => []

/-- The items of a list. Nothing else has any. -/
def items : Tree → List Tree
  | .list items => items
  | _ => []

/-- What is found under a name. -/
def get? (t : Tree) (name : String) : Option Tree := t.entries.lookup name

/-- The table with a value under a name, in place of what is there. -/
def put (t : Tree) (name : String) (value : Tree) : Tree :=
  .table ((name, value) :: t.entries.filter (·.1 ≠ name))

theorem get?_put (t : Tree) (name : String) (value : Tree) :
  (t.put name value).get? name = some value
  := by
  simp [get?, put, entries]

/-- The list with a value at a position. A list that is too short grows, and nothing stands
between its end and the new value. -/
def putAt (t : Tree) (index : Nat) (value : Tree) : Tree :=
  let items := t.items
  if index < items.length then .list (items.set index value)
  else .list (items ++ List.replicate (index - items.length) .nothing ++ [value])

/-! ### Giving values -/

mutual

/-- A value put in place of an old one, if there was one. The entries of a table go to the places
that their keys are the names of, so an empty table leaves alone what is there. -/
def replacing (old : Option Tree) : Tree → Tree
  | .table [] => old.getD (.table [])
  | .table (e :: es) => joined (old.getD (.table [])) (e :: es)
  | new => new

/-- A tree joined with the entries of a table. -/
def joined (old : Tree) : List (String × Tree) → Tree
  | [] => old
  | (name, value) :: rest =>
    joined (old.put (lower name) (replacing (old.get? (lower name)) value)) rest

end

/-- The length of the longest list that there is room for. -/
def listRoom : Nat := 16777216

/-- The length of the longest list for which room can be asked for. -/
def listAskable : Nat := 96076792050570581

/-- The position in a list of some length that an index means. There is none before the start of
the list. -/
def positionOf (length : Nat) (index : Int) : Except Fault Nat :=
  let n := if 0 ≤ index then index else length + index
  if n < 0 ∨ listAskable ≤ n then .error .place
  else if listRoom ≤ n then .error .room
  else .ok n.toNat

/-- The tree with a value given for a place. At a name the value is joined with what is there, at
a position it takes the place of it. -/
def give (value : Tree) : Place → Tree → Except Fault Tree
  | [], _ => .ok value
  | [.name name], t => .ok (t.put name (replacing (t.get? name) value))
  | .name name :: way, t => (give value way ((t.get? name).getD .nothing)).map (t.put name)
  | .position index :: way, t => do
    let n ← positionOf t.items.length index
    let inner ← give value way (t.items.getD n .nothing)
    return t.putAt n inner

/-- The tree with all values of a source given in turn. -/
def take (t : Tree) (source : Source) : Except Fault Tree :=
  source.foldlM (fun t (place, value) => give value (Place.read place) t) t

end Tree

end CommandTimelines.Settings
