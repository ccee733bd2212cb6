import CommandTimelines.Text.Blank

/-!
# Lines without comments

Two slashes start a comment that runs to the end of the line, wherever they stand: quotes do
not protect them. A line that starts with them is a comment as a whole; of any other line
the text before the comment counts, without the blanks it ends in.
-/

namespace CommandTimelines.Script

open Text

/-- What a line of a script holds besides comments. -/
inductive Line where
  | comment
  | text (content : List Char)
deriving DecidableEq, Repr

/-- The part of a line before its first two adjacent slashes. -/
def beforeComment : List Char → List Char
  | '/' :: '/' :: _ => []
  | c :: r => c :: beforeComment r
  | [] => []

/-- A line without its comment. -/
def Line.read (raw : List Char) : Line :=
  match raw with
  | '/' :: '/' :: _ => .comment
  | _ => .text (trimEnd (beforeComment raw))

/-- Whether a line holds nothing to do. -/
def Line.isBlank : Line → Bool
  | .comment => true
  | .text content => content.all Text.isBlank

end CommandTimelines.Script
