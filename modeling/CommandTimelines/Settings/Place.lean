import CommandTimelines.Text.Lowercase
import CommandTimelines.Text.Numeral

/-!
# Places

A source of settings names the place that a value belongs to: a name, and after it names with a
dot before each and positions in square brackets, which lead further in. A negative position
counts from the end of a list. What is not written like this is one name as it stands. Names
that differ only in the case of their letters are the same.
-/

namespace CommandTimelines.Settings

open Text

/-- One step of the way to a place. -/
inductive Part where
  /-- To what is found under a name, in lower case. -/
  | name (name : String)
  /-- To what is found at a position of a list. -/
  | position (index : Int)
deriving DecidableEq, Repr

/-- The way to a place. -/
abbrev Place : Type := List Part

namespace Place

/-- Whether a character may stand in a name. -/
def isNameChar (c : Char) : Bool := c.isAlphanum || c == ' ' || c == '_' || c == '-'

/-- The name ahead, and what follows it. -/
def name? (s : List Char) : Option (Part × List Char) :=
  match s.takeWhile isNameChar with
  | [] => none
  | name => some (.name (lower (String.ofList name)), s.dropWhile isNameChar)

/-- What follows the spaces and tabs ahead. -/
def skipSpaces (s : List Char) : List Char := s.dropWhile fun c => c == ' ' || c == '\t'

/-- The position ahead, which fits 64 bits, with its closing bracket, and what follows it. -/
def position? (s : List Char) : Option (Part × List Char) := do
  let s := skipSpaces s
  let isNegative := s.head? == some '-'
  let s := if isNegative then s.drop 1 else s
  let n ← decimal? (s.takeWhile Char.isDigit)
  let index : Int := if isNegative then -n else n
  match skipSpaces (s.dropWhile Char.isDigit) with
  | ']' :: r => if fitsSigned index then some (.position index, r) else none
  | _ => none

/-- The way that a text goes on, in at most `n` steps. -/
def partsIn? : Nat → List Char → Option Place
  | _, [] => some []
  | 0, _ => none
  | n + 1, '.' :: r => do
    let (part, r) ← name? r
    let parts ← partsIn? n r
    return part :: parts
  | n + 1, '[' :: r => do
    let (part, r) ← position? r
    let parts ← partsIn? n r
    return part :: parts
  | _, _ => none

/-- The way to the place that a text names. -/
def read (s : String) : Place :=
  let way? : Option Place := do
    let (part, r) ← name? s.toList
    let parts ← partsIn? r.length r
    return part :: parts
  way?.getD [.name (lower s)]

end Place

end CommandTimelines.Settings
