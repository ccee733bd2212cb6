import CommandTimelines.Settings.Tree
import CommandTimelines.Text.Fraction

/-!
# Numbers of JSON

An integer that fits 64 bits is taken as it stands. Any other number becomes a fraction: as many
of its first digits as fit 64 bits are taken for an integer, the others are passed over, and the
result is multiplied or divided by a power of ten. It is the nearest fraction for short numbers
only.
-/

namespace CommandTimelines.Json

open Text Settings

/-- A number to which digits are appended, as long as it stays below 2 ^ 64, and how many digits
are left over. -/
def appendDigits (n : Nat) : List Char → Nat × Nat
  | [] => (n, 0)
  | c :: r =>
    let next := 10 * n + digitValue c
    if next < wordLimit then appendDigits next r else (n, r.length + 1)

/-- The greatest power of ten that a fraction is multiplied or divided by in one step. -/
def greatestPower : Nat := 308

/-- A power of ten as a fraction. -/
def power (exponent : Nat) : Float := Float.ofScientific 1 false exponent

/-- A fraction divided by a power of ten, in at most `n` steps. -/
def dividedIn : Nat → Float → Nat → Float
  | 0, x, _ => x
  | n + 1, x, exponent =>
    if exponent ≤ greatestPower then x / power exponent
    else dividedIn n (x / power greatestPower) (exponent - greatestPower)

/-- A number below 2 ^ 64 times a power of ten; none if that is out of range. Three divisions by
the greatest power leave nothing of such a number. -/
def scaled? (n : Nat) (exponent : Int) : Option Float :=
  let x := n.toUInt64.toFloat
  if exponent < 0 then some (dividedIn 3 x exponent.natAbs)
  else if n = 0 then some x
  else if greatestPower < exponent.natAbs then none
  else
    let product := x * power exponent.natAbs
    if product == 1 / 0 then none else some product

/-- The parts of a number. -/
structure Parts where
  negative : Bool
  /-- The digits before the point. -/
  whole : List Char
  /-- The digits after the point. -/
  places : List Char
  /-- The exponent, if one is written. -/
  exponent : Option Int

/-- The fraction that the parts of a number denote; none if it is out of range. -/
def Parts.fraction? (p : Parts) : Option Float :=
  let (first, left) := appendDigits 0 p.whole
  let (all, leftOfPlaces) := appendDigits first p.places
  let taken : Int := p.places.length - leftOfPlaces
  (scaled? all (left - taken + p.exponent.getD 0)).map (withSign p.negative)

/-- The integer that the parts of a number denote, if they denote one that fits 64 bits. Minus
zero is no integer. -/
def Parts.integer? (p : Parts) : Option Int :=
  let n := valueOfDigits p.whole
  if p.places ≠ [] || p.exponent.isSome || (p.negative && n = 0) then none
  else
    let signed : Int := if p.negative then -n else n
    if fitsSigned signed then some signed else none

/-- The value that the parts of a number denote. -/
def Parts.value? (p : Parts) : Option Tree :=
  match p.integer? with
  | some n => some (.integer n)
  | none => p.fraction?.map .fraction

/-- The digits after a point, if a point is ahead, and what follows them. -/
def places? : List Char → Option (List Char × List Char)
  | '.' :: r =>
    match r.takeWhile Char.isDigit with
    | [] => none
    | digits => some (digits, r.dropWhile Char.isDigit)
  | s => some ([], s)

/-- The exponent, if one is ahead, and what follows it. -/
def exponentAhead? : List Char → Option (Option Int × List Char)
  | c :: r =>
    if c = 'e' ∨ c = 'E' then do
      let (negative, body) := splitSign r
      let n ← decimal? (body.takeWhile Char.isDigit)
      return (some (if negative then -(n : Int) else n), body.dropWhile Char.isDigit)
    else some (none, c :: r)
  | [] => some (none, [])

/-- The number ahead, and what follows it. It begins with a zero only if no other digit stands
before the point. -/
def number? (s : List Char) : Option (Tree × List Char) := do
  let negative := s.head? == some '-'
  let body := if negative then s.drop 1 else s
  let whole := body.takeWhile Char.isDigit
  let (places, r) ← places? (body.dropWhile Char.isDigit)
  let (exponent, r) ← exponentAhead? r
  if whole = [] ∨ (whole.head? = some '0' ∧ whole ≠ ['0']) then none
  else (Parts.value? ⟨negative, whole, places, exponent⟩).map fun value => (value, r)

end CommandTimelines.Json
