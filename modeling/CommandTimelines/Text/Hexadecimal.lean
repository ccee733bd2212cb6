/-!
# Hexadecimal digits

Numbers that are written in digits to a base of at most 16, and characters that are written by
their numbers in hexadecimal digits. A character beyond the first
65536 may be written as a pair of numbers below that, a high and a low surrogate, neither of
which stands for a character of its own.
-/

namespace CommandTimelines.Text

/-- The value of a hexadecimal digit. -/
def hexValue? (c : Char) : Option Nat :=
  if c.isDigit then some (c.toNat - '0'.toNat)
  else if 'a' ≤ c.toLower && c.toLower ≤ 'f' then some (c.toLower.toNat - 'a'.toNat + 10)
  else none

/-- Whether a character is a hexadecimal digit. -/
def isHexDigit (c : Char) : Bool := (hexValue? c).isSome

/-- The value of a digit to a base of at most 16. -/
def digitTo? (base : Nat) (c : Char) : Option Nat := (hexValue? c).filter (· < base)

/-- The number that digits to a base denote. -/
def numberTo? (base : Nat) (digits : List Char) : Option Nat :=
  digits.foldlM (fun n c => (digitTo? base c).map fun d => base * n + d) 0

/-- The number that hexadecimal digits denote. -/
def hexNumber? (digits : List Char) : Option Nat := numberTo? 16 digits

/-- The character with a number. -/
def numbered? (n : Nat) : Option Char := if n.isValidChar then some (Char.ofNat n) else none

/-- The character that hexadecimal digits denote. -/
def scalar? (digits : List Char) : Option Char := (hexNumber? digits).bind numbered?

/-- Whether a number is a high surrogate. -/
def isHighSurrogate (n : Nat) : Bool := 0xD800 ≤ n && n ≤ 0xDBFF

/-- Whether a number is a low surrogate. -/
def isLowSurrogate (n : Nat) : Bool := 0xDC00 ≤ n && n ≤ 0xDFFF

/-- The character that a high and a low surrogate stand for. -/
def paired? (high low : Nat) : Option Char :=
  if isHighSurrogate high && isLowSurrogate low then
    numbered? (0x10000 + 1024 * (high - 0xD800) + (low - 0xDC00))
  else none

end CommandTimelines.Text
