import CommandTimelines.Text.Fraction
import CommandTimelines.Text.Pieces
import CommandTimelines.Toml.Lexical

/-!
# Numbers of TOML

Integers fit 64 bits and may be written in four bases; fractions have a point, an exponent or
both. Single underscores may stand between digits, and only zero itself begins with a zero.
-/

namespace CommandTimelines.Toml

open Text

/-- Digits without the underscores between them. -/
def plainDigits? (isDigit : Char → Bool) (s : List Char) : Option (List Char) :=
  let groups := pieces '_' s
  if groups.all fun g => g ≠ [] && g.all isDigit then some groups.flatten else none

/-- The digits of an integer, which begins with a zero only if it is zero. -/
def wholeDigits? (s : List Char) : Option (List Char) :=
  (plainDigits? Char.isDigit s).filter fun digits => s == ['0'] || digits.head? != some '0'

/-- An integer that fits 64 bits. -/
def fitting? (n : Int) : Option Int := if fitsSigned n then some n else none

/-- The number that digits to a base denote. -/
def inBase? (base : Nat) (s : List Char) : Option Int := do
  let digits ← plainDigits? (fun c => (digitTo? base c).isSome) s
  let n ← numberTo? base digits
  fitting? n

/-- An integer. -/
def integer? : List Char → Option Int
  | '0' :: 'x' :: r => inBase? 16 r
  | '0' :: 'o' :: r => inBase? 8 r
  | '0' :: 'b' :: r => inBase? 2 r
  | s => do
    let (negative, body) := splitSign s
    let n ← (wholeDigits? body).bind decimal?
    fitting? (if negative then -n else n)

/-- An exponent in plain digits, with its letter. -/
def plainExponent? : List Char → Option (List Char)
  | [] => some []
  | _ :: r => do
    let sign := r.takeWhile fun c => c == '+' || c == '-'
    let digits ← plainDigits? Char.isDigit (r.drop sign.length)
    if sign.length ≤ 1 then some ('e' :: sign ++ digits) else none

/-- The places after a point in plain digits, with the point. -/
def plainPlaces? : List Char → Option (List Char)
  | [] => some []
  | _ :: r => (plainDigits? Char.isDigit r).map ('.' :: ·)

/-- A fraction. One that is too great to be finite is none. -/
def decimalFraction? (s : List Char) : Option Float := do
  let (negative, body) := splitSign s
  let whole := body.takeWhile fun c => c ≠ '.' && c ≠ 'e' && c ≠ 'E'
  let rest := body.drop whole.length
  let places := rest.takeWhile fun c => c ≠ 'e' && c ≠ 'E'
  let digits ← wholeDigits? whole
  let placeDigits ← plainPlaces? places
  let exponent ← plainExponent? (rest.drop places.length)
  let x ← unsignedFraction? (digits ++ placeDigits ++ exponent)
  if rest = [] ∨ (!negative && x == 1 / 0) then none else some (withSign negative x)

/-- A fraction, infinity, or no number at all. -/
def fraction? (s : List Char) : Option Float :=
  let (negative, body) := splitSign s
  if body = ['i', 'n', 'f'] then some (withSign negative (1 / 0))
  else if body = ['n', 'a', 'n'] then some (withSign negative (0 / 0))
  else decimalFraction? s

end CommandTimelines.Toml
