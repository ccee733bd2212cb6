import CommandTimelines.Text.Numeral

/-!
# Dates and times of TOML

A date, a time of day, or both with an offset from universal time if one is given. They are
only checked and put into their usual spelling.
-/

namespace CommandTimelines.Toml

open Text

/-- The number that exactly as many digits as asked for denote, if it lies in a range. -/
def fixed? (count low high : Nat) (s : List Char) : Option Nat :=
  (decimal? s).filter fun n => s.length == count && decide (low ≤ n) && decide (n ≤ high)

/-- How many days a month has. -/
def daysIn (year month : Nat) : Nat :=
  let leap := year % 4 == 0 && (year % 100 != 0 || year % 400 == 0)
  if month = 2 then (if leap then 29 else 28)
  else if month ∈ [4, 6, 9, 11] then 30
  else 31

/-- Whether a text is a date: four, two and two digits with hyphens between them. -/
def isDate (s : List Char) : Bool :=
  let valid? : Option Nat := do
    let year ← fixed? 4 0 9999 (s.take 4)
    let month ← fixed? 2 1 12 ((s.drop 5).take 2)
    fixed? 2 1 (daysIn year month) (s.drop 8)
  s.length == 10 && s[4]? == some '-' && s[7]? == some '-' && valid?.isSome

/-- The parts of a second without the zeros they end in, after a point. No more than nine
digits count. -/
def partText? : List Char → Option (List Char)
  | [] => some []
  | '.' :: r =>
    if (decimal? r).isNone then none
    else match ((r.take 9).reverse.dropWhile (· == '0')).reverse with
      | [] => some []
      | digits => some ('.' :: digits)
  | _ => none

/-- The usual spelling of a time of day: hours, minutes and seconds with colons between
them. -/
def timeText? (s : List Char) : Option (List Char) := do
  let _ ← fixed? 2 0 23 (s.take 2)
  let _ ← fixed? 2 0 59 ((s.drop 3).take 2)
  let _ ← fixed? 2 0 60 ((s.drop 6).take 2)
  let parts ← partText? (s.drop 8)
  if s[2]? = some ':' ∧ s[5]? = some ':' then some (s.take 8 ++ parts) else none

/-- Whether a character begins an offset. -/
def beginsOffset (c : Char) : Bool := c == 'Z' || c == 'z' || c == '+' || c == '-'

/-- A number below a hundred in two digits. -/
def twoDigits (n : Nat) : List Char := [Nat.digitChar (n / 10), Nat.digitChar (n % 10)]

/-- The usual spelling of an offset of some minutes. There is no offset of minus zero. -/
def minutesText (sign : Char) (minutes : Nat) : List Char :=
  (if minutes = 0 then '+' else sign) :: twoDigits (minutes / 60)
    ++ ':' :: twoDigits (minutes % 60)

/-- The usual spelling of an offset from universal time. -/
def offsetText? : List Char → Option (List Char)
  | [] => some []
  | c :: r =>
    if c = 'Z' ∨ c = 'z' then if r = [] then some ['Z'] else none
    else do
      let hours ← fixed? 2 0 23 (r.take 2)
      let minutes ← fixed? 2 0 59 (r.drop 3)
      if r[2]? = some ':' then some (minutesText c (60 * hours + minutes)) else none

/-- The usual spelling of a time of day with an optional offset. -/
def offsetTimeText? (s : List Char) : Option (List Char) := do
  let time := s.takeWhile (!beginsOffset ·)
  let timeText ← timeText? time
  let offset ← offsetText? (s.drop time.length)
  return timeText ++ offset

/-- The usual spelling of a date, a time of day, or a date and a time. -/
def moment? (s : List Char) : Option (List Char) :=
  if isDate (s.take 10) then
    match s.drop 10 with
    | [] => some s
    | c :: r =>
      if c = 'T' ∨ c = 't' ∨ c = ' ' then
        (offsetTimeText? r).map (s.take 10 ++ 'T' :: ·)
      else none
  else timeText? s

end CommandTimelines.Toml
