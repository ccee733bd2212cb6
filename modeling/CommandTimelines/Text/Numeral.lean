/-!
# Numbers in decimal digits

`decimal?` reads a run of ASCII digits, `word?` one that fits 64 bits and may carry a plus
sign.
-/

namespace CommandTimelines.Text

/-- The number of values of a 64-bit word: two to the power of 64. -/
def wordLimit : Nat := 18446744073709551616

/-- The numbers of a 64-bit word with a sign: from minus two to the power of 63 up to one less
than two to the power of 63. -/
def fitsSigned (n : Int) : Bool := -9223372036854775808 ≤ n && n < 9223372036854775808

/-- The value of one ASCII digit. -/
def digitValue (c : Char) : Nat := c.toNat - '0'.toNat

/-- The number that digits denote, most significant first. -/
def valueOfDigits (digits : List Char) : Nat :=
  digits.foldl (fun n c => 10 * n + digitValue c) 0

/-- The number that a text denotes if it is one or more ASCII digits. -/
def decimal? (s : List Char) : Option Nat :=
  if s ≠ [] && s.all Char.isDigit then some (valueOfDigits s) else none

/-- The number below 2 ^ 64 that a text of digits denotes. -/
def unsignedWord? (s : List Char) : Option Nat :=
  (decimal? s).filter (· < wordLimit)

/-- The number below 2 ^ 64 that a text of digits denotes, after at most one plus sign. -/
def word? : List Char → Option Nat
  | '+' :: s => unsignedWord? s
  | s => unsignedWord? s

theorem unsignedWord?_eq_some_iff {s : List Char} {n : Nat} :
  unsignedWord? s = some n ↔ decimal? s = some n ∧ n < wordLimit
  := by
  simp [unsignedWord?, Option.filter_eq_some_iff]

end CommandTimelines.Text
