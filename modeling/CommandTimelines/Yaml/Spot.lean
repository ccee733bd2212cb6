/-!
# Placed characters

In YAML it matters where a character stands. A text is turned into spots, each of which holds a
character together with its place, and the readers take spots instead of characters. A spot
without a character, written as the null character, stands at the end.
-/

namespace CommandTimelines.Yaml

/-- A character at its place. -/
structure Spot where
  char : Char
  /-- How many characters stand before it. -/
  index : Nat
  /-- How many line feeds stand before it. -/
  line : Nat
  /-- How many characters stand between the last line feed and it. -/
  column : Nat
deriving DecidableEq, Repr

/-- The spots of a text from a place on. -/
def spotsFrom (index line column : Nat) : List Char → List Spot
  | [] => [⟨'\x00', index, line, column⟩]
  | c :: r =>
    ⟨c, index, line, column⟩ ::
      if c = '\n' then spotsFrom (index + 1) (line + 1) 0 r
      else spotsFrom (index + 1) line (column + 1) r

/-- The spots of a text. -/
def spots (s : List Char) : List Spot := spotsFrom 0 0 0 s

/-- Placing characters loses none of them. -/
theorem map_char_spots (s : List Char) :
  (spots s).map (·.char) = s ++ ['\x00']
  := by
  have any (index line column : Nat) :
    (spotsFrom index line column s).map (·.char) = s ++ ['\x00'] := by
    induction s generalizing index line column with
    | nil => rfl
    | cons c r ih =>
      simp only [spotsFrom, List.map_cons, List.cons_append]
      split <;> simp [ih]
  exact any 0 0 0

/-- The characters ahead. -/
def charsOf (s : List Spot) : List Char := s.map (·.char)

/-- The character ahead by some places. -/
def charAt (n : Nat) (s : List Spot) : Char := (s[n]?.map (·.char)).getD '\x00'

/-- The column of what is ahead. -/
def columnOf (s : List Spot) : Nat := (s.head?.map (·.column)).getD 0

/-! ### Classes of characters -/

/-- Whether a character stands for the end. -/
def isEnd (c : Char) : Bool := c == '\x00'

/-- Whether a character breaks a line. -/
def isBreak (c : Char) : Bool := c == '\n' || c == '\r'

/-- Whether a character breaks a line or stands for the end. -/
def endsLine (c : Char) : Bool := isBreak c || isEnd c

/-- Whether a character is a space or a tab. -/
def isSpace (c : Char) : Bool := c == ' ' || c == '\t'

/-- Whether a character separates. -/
def separates (c : Char) : Bool := isSpace c || endsLine c

/-- Whether a character has a meaning inside brackets and braces. -/
def isFlowMark (c : Char) : Bool :=
  c == ',' || c == '[' || c == ']' || c == '\x7b' || c == '\x7d'

/-- Whether a character may stand in a name. -/
def isNameChar (c : Char) : Bool := c.isAlphanum || c == '_' || c == '-'

/-! ### Passing over -/

/-- What follows the spaces and tabs ahead. -/
def skipSpaces (s : List Spot) : List Spot := s.dropWhile fun a => isSpace a.char

/-- What follows the rest of the line ahead, its end apart. -/
def skipLine (s : List Spot) : List Spot := s.dropWhile fun a => !endsLine a.char

/-- What follows the line break ahead, if there is one. -/
def skipBreak : List Spot → List Spot
  | a :: b :: r =>
    if a.char = '\r' ∧ b.char = '\n' then r else if isBreak a.char then b :: r else a :: b :: r
  | s => s

/-- What follows the comment ahead, if there is one. -/
def skipComment (s : List Spot) : List Spot :=
  if charAt 0 s = '#' then skipLine s else s

/-- What follows the rest of the line ahead, which holds nothing but blanks and a comment. -/
def lineEnd? (s : List Spot) : Option (List Spot) :=
  let r := skipComment (skipSpaces s)
  if endsLine (charAt 0 r) then some (skipBreak r) else none

/-- Whether a line ahead separates documents. -/
def separatesDocuments (s : List Spot) : Bool :=
  let mark := charsOf (s.take 3)
  columnOf s == 0 && separates (charAt 3 s) &&
    (mark == ['-', '-', '-'] || mark == ['.', '.', '.'])

end CommandTimelines.Yaml
