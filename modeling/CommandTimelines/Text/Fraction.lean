import CommandTimelines.Text.Numeral

/-!
# Fractions as text

Binary numbers of 64 bits, read from decimals and written as decimals. A decimal is read to the
nearest number. A number is written with as few digits as single it out, always without an
exponent.

A finite number that is not zero is `m * 2 ^ q` for a positive `m`. Every decimal strictly
between the midpoints to its two neighbours reads back as it, and the midpoints do too if `m`
is even. `shortest` looks for a decimal in that interval with 1, 2, … 17 digits, and takes the
nearer of the two candidates for each number of digits.
-/

namespace CommandTimelines.Text

/-- A power of ten. -/
def tenTo (n : Nat) : Nat := Nat.pow 10 n

/-- A power of two. -/
def twoTo (n : Nat) : Nat := Nat.pow 2 n

/-! ### Reading -/

/-- How many decimal digits a number has; none for zero. -/
def digitCount (n : Nat) : Nat := if n = 0 then 0 else (Nat.toDigits 10 n).length

/-- The number nearest to `digits * 10 ^ exponent`. Far beyond the range it is infinite, and far
below it is zero. -/
def ofDecimal (digits : Nat) (exponent : Int) : Float :=
  let magnitude := digitCount digits + exponent
  if digits = 0 ∨ magnitude < -400 then 0
  else if 400 < magnitude then Float.ofScientific 1 false 400
  else Float.ofScientific digits (decide (exponent < 0)) exponent.natAbs

/-- A number with a sign. -/
def withSign (negative : Bool) (x : Float) : Float := if negative then -x else x

/-- Whether a text starts with a minus, and the text without its sign. -/
def splitSign : List Char → Bool × List Char
  | '-' :: r => (true, r)
  | '+' :: r => (false, r)
  | r => (false, r)

/-- The integer that an optional sign and digits denote. -/
def integer? (s : List Char) : Option Int :=
  let (negative, digits) := splitSign s
  (decimal? digits).map fun n => if negative then -(n : Int) else n

/-- The exponent after its letter; zero if there is none. -/
def exponent? : List Char → Option Int
  | [] => some 0
  | _ :: r => integer? r

/-- The number that digits with an optional point and an optional exponent denote. -/
def unsignedFraction? (s : List Char) : Option Float := do
  let mantissa := s.takeWhile fun c => c ≠ 'e' && c ≠ 'E'
  let exponent ← exponent? (s.drop mantissa.length)
  let whole := mantissa.takeWhile (· ≠ '.')
  let places := (mantissa.drop whole.length).drop 1
  let digits ← decimal? (whole ++ places)
  return ofDecimal digits (exponent - places.length)

/-- The number that a text denotes: a decimal, infinity, or no number at all. -/
def fraction? (s : List Char) : Option Float :=
  let (negative, body) := splitSign s
  match String.ofList (body.map Char.toLower) with
  | "inf" => some (withSign negative (1 / 0))
  | "infinity" => some (withSign negative (1 / 0))
  | "nan" => some (withSign negative (0 / 0))
  | _ => (unsignedFraction? body).map (withSign negative)

/-! ### Writing -/

/-- A positive rational number. -/
structure Ratio where
  numerator : Nat
  denominator : Nat

/-- Whether `c * 10 ^ k` is less than a ratio, or equal to it if `orEqual`. -/
def Ratio.exceeds (r : Ratio) (orEqual : Bool) (c : Nat) (k : Int) : Bool :=
  let left := c * tenTo k.toNat * r.denominator
  let right := r.numerator * tenTo (-k).toNat
  left < right || (orEqual && left == right)

/-- The integer part of a ratio divided by `10 ^ k`. -/
def Ratio.floorAt (r : Ratio) (k : Int) : Nat :=
  (r.numerator * tenTo (-k).toNat) / (r.denominator * tenTo k.toNat)

/-- The exponent `e` for which a ratio is less than `10 ^ e` and not less than a tenth of
it. -/
def Ratio.magnitude (r : Ratio) : Int :=
  if r.denominator ≤ r.numerator then digitCount (r.numerator / r.denominator)
  else 1 - (digitCount ((r.denominator - 1) / r.numerator) : Int)

/-- `n * 2 ^ q` as a ratio. -/
def Ratio.ofBinary (n : Nat) (q : Int) : Ratio :=
  ⟨n * twoTo q.toNat, twoTo (-q).toNat⟩

/-- The decimals that read back as a number: those between two bounds. -/
structure Interval where
  low : Ratio
  value : Ratio
  high : Ratio
  /-- Whether the bounds belong to it. -/
  closed : Bool

/-- The interval of `m * 2 ^ q`. The neighbour below is half as far away as the one above if
`m` is the least of its binade. -/
def Interval.ofBinary (m : Nat) (q : Int) (leastOfBinade : Bool) : Interval :=
  { low := Ratio.ofBinary (4 * m - if leastOfBinade then 1 else 2) (q - 2)
    value := Ratio.ofBinary (4 * m) (q - 2)
    high := Ratio.ofBinary (4 * m + 2) (q - 2)
    closed := m % 2 == 0 }

/-- Whether `c * 10 ^ k` lies in an interval. -/
def Interval.holds (i : Interval) (c : Nat) (k : Int) : Bool :=
  !i.low.exceeds (!i.closed) c k && i.high.exceeds i.closed c k

/-- The number of the interval's grid `10 ^ k` that is nearest to its value, if one of the two
next to the value lies in the interval. Of two that are equally near the greater one is
taken. -/
def Interval.onGrid? (i : Interval) (k : Int) : Option Nat :=
  let below := i.value.floorAt k
  match i.holds below k, i.holds (below + 1) k with
  | false, false => none
  | true, false => some below
  | false, true => some (below + 1)
  | true, true =>
    let middle : Ratio := ⟨2 * i.value.numerator, i.value.denominator⟩
    if middle.exceeds true (2 * below + 1) k then some (below + 1) else some below

/-- The decimal `c * 10 ^ k` of an interval with the fewest digits, at least `17 - n` of
them. -/
def Interval.shortestIn (i : Interval) : Nat → Nat × Int
  | 0 =>
    let k := i.value.magnitude - 17
    (i.value.floorAt k, k)
  | n + 1 =>
    let k := i.value.magnitude - (17 - n : Int)
    match i.onGrid? k with
    | some c => (c, k)
    | none => i.shortestIn n

/-- The decimal of an interval with the fewest digits. -/
def Interval.shortest (i : Interval) : Nat × Int := i.shortestIn 17

/-- `c * 10 ^ k` without an exponent. -/
def positional (c : Nat) (k : Int) : String :=
  let whole := toString (c * tenTo k.toNat / tenTo (-k).toNat)
  let rest := Nat.toDigits 10 (c % tenTo (-k).toNat)
  let places := List.replicate ((-k).toNat - rest.length) '0' ++ rest
  match (places.reverse.dropWhile (· == '0')).reverse with
  | [] => whole
  | decimals => whole ++ "." ++ String.ofList decimals

/-- The text of a number given by its bits. -/
def textOfBits (bits : Nat) : String :=
  let sign := if bits / twoTo 63 = 0 then "" else "-"
  let exponent : Nat := bits / twoTo 52 % twoTo 11
  let fraction : Nat := bits % twoTo 52
  if exponent = 2047 then
    if fraction = 0 then sign ++ "inf" else "NaN"
  else if exponent = 0 ∧ fraction = 0 then sign ++ "0"
  else
    let m := if exponent = 0 then fraction else twoTo 52 + fraction
    let q := (max exponent 1 : Int) - 1075
    let (c, k) := (Interval.ofBinary m q (fraction == 0 && decide (1 < exponent))).shortest
    sign ++ positional c k

/-- The text of a number. -/
def fractionText (x : Float) : String := textOfBits x.toBits.toNat

end CommandTimelines.Text
