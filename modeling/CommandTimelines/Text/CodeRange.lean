/-!
# Ranges of code points

A property of characters is given as a list of closed ranges of code points.
`CodeRange.cover` asks whether a character has the property.
-/

namespace CommandTimelines.Text

/-- A closed range of code points, written as its first and its last member. -/
abbrev CodeRange := Nat × Nat

/-- Whether one of the ranges contains the code point of a character. -/
def CodeRange.cover (ranges : List CodeRange) (c : Char) : Bool :=
  ranges.any fun r => r.1 ≤ c.toNat && c.toNat ≤ r.2

theorem CodeRange.cover_iff (ranges : List CodeRange) (c : Char) :
  CodeRange.cover ranges c = true ↔ ∃ r ∈ ranges, r.1 ≤ c.toNat ∧ c.toNat ≤ r.2
  := by
  simp [CodeRange.cover]

end CommandTimelines.Text
