import CommandTimelines.Settings.Tree
import CommandTimelines.Text.Fraction
import CommandTimelines.Text.Hexadecimal

/-!
# Nodes of YAML

The values that a document is made of. What a plain scalar denotes shows from its text, unless a
tag says so; the keys of a table may be any values. A node becomes a tree of settings if all keys
are texts or integers.
-/

namespace CommandTimelines.Yaml

open Text Settings

/-- A value. -/
inductive Node where
  | nothing
  | text (s : String)
  | integer (n : Int)
  /-- A number that is no integer, as it is written. -/
  | real (s : String)
  | boolean (b : Bool)
  | list (items : List Node)
  | table (entries : List (Node × Node))
deriving Repr

/-! ### Scalars -/

/-- The integer that fits 64 bits and that a text denotes. -/
def word? (s : List Char) : Option Int := (integer? s).filter fitsSigned

/-- The integer that digits to a base denote, after an optional sign. -/
def inBase? (base : Nat) (s : List Char) : Option Int :=
  let (negative, digits) := splitSign s
  if digits = [] then none
  else ((numberTo? base digits).map fun n => if negative then -(n : Int) else n).filter fitsSigned

/-- The names of infinity and of what is no number. -/
def realNames : List String :=
  [".inf", ".Inf", ".INF", "+.inf", "+.Inf", "+.INF", "-.inf", "-.Inf", "-.INF", ".nan", "NaN",
    ".NAN"]

/-- Whether a text denotes a number. -/
def isReal (s : String) : Bool := s ∈ realNames || (fraction? s.toList).isSome

/-- What a plain scalar denotes that is neither a truth value nor nothing. -/
def Node.ofPlainWord (s : String) : Node :=
  let chars := s.toList
  let integer := match chars with
    | '0' :: 'x' :: r => (inBase? 16 r).or (word? chars)
    | '0' :: 'o' :: r => (inBase? 8 r).or (word? chars)
    | '+' :: r => (word? r).or (word? chars)
    | _ => word? chars
  match integer with
  | some n => .integer n
  | none => if isReal s then .real s else .text s

/-- What a plain scalar denotes. -/
def Node.ofPlain (s : String) : Node :=
  if s = "~" ∨ s = "null" then .nothing
  else if s = "true" then .boolean true
  else if s = "false" then .boolean false
  else .ofPlainWord s

/-- What a plain scalar denotes that has a tag. What does not suit its tag denotes nothing. -/
def Node.ofTagged (handle suffix s : String) : Node :=
  if handle ≠ "!!" then .text s
  else if suffix = "bool" then
    if s = "true" then .boolean true else if s = "false" then .boolean false else .nothing
  else if suffix = "int" then
    match word? s.toList with
    | some n => .integer n
    | none => .nothing
  else if suffix = "float" then if isReal s then .real s else .nothing
  else if suffix = "null" then .nothing
  else .text s

/-- What a scalar denotes that may have a tag. -/
def Node.ofScalar (isPlain : Bool) (tag : Option (String × String)) (s : String) : Node :=
  if !isPlain then .text s
  else match tag with
    | some (handle, suffix) => .ofTagged handle suffix s
    | none => .ofPlain s

/-! ### Trees of settings -/

/-- Why a node cannot become a tree. -/
inductive Flaw where
  /-- A number whose name is not understood. -/
  | real
  /-- A key that is neither a text nor an integer. -/
  | key
deriving DecidableEq, Repr

/-- The name under which the entry of a key is found. -/
def Node.name? : Node → Option String
  | .text s => some s
  | .integer n => some (toString n)
  | _ => none

mutual

/-- A node as a tree. -/
def Node.toTree : Node → Except Flaw Tree
  | .nothing => .ok .nothing
  | .text s => .ok (.text s)
  | .integer n => .ok (.integer n)
  | .real s =>
    match fraction? s.toList with
    | some x => .ok (.fraction x)
    | none => .error .real
  | .boolean b => .ok (.boolean b)
  | .list items => (itemsToTrees items).map .list
  | .table entries => entriesToTree (.table []) entries

/-- Nodes as trees. -/
def itemsToTrees : List Node → Except Flaw (List Tree)
  | [] => .ok []
  | item :: rest => do
    let tree ← item.toTree
    let trees ← itemsToTrees rest
    return tree :: trees

/-- A table with more entries. -/
def entriesToTree (t : Tree) : List (Node × Node) → Except Flaw Tree
  | [] => .ok t
  | (key, value) :: rest =>
    match key.name? with
    | none => .error .key
    | some name => do
      let tree ← value.toTree
      entriesToTree (t.put name tree) rest

end

end CommandTimelines.Yaml
