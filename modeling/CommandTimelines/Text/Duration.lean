/-!
# Durations as text

A duration is a number of milliseconds. From a second on it is written in seconds with as
many decimals as it needs, below a second in milliseconds, and nothing at all in the
smallest unit.
-/

namespace CommandTimelines.Text

/-- The three decimals of a number of thousandths, without the zeros they end in. -/
def thousandths (n : Nat) : List Char :=
  ([n / 100, n / 10 % 10, n % 10].reverse.dropWhile (· == 0)).reverse.map Nat.digitChar

/-- A number of milliseconds in the unit that suits it. -/
def durationText (ms : Nat) : String :=
  if ms = 0 then "0ns"
  else if ms < 1000 then toString ms ++ "ms"
  else
    let whole := toString (ms / 1000)
    match thousandths (ms % 1000) with
    | [] => whole ++ "s"
    | decimals => whole ++ "." ++ String.ofList decimals ++ "s"

end CommandTimelines.Text
