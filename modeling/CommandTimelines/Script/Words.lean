import CommandTimelines.Text.Blank

/-!
# Words

A command line is cut into words at blanks. A quote opens or closes a quoted stretch, in
which blanks belong to the word; text directly before an opening quote is a word of its own,
and a closing quote always ends one, an empty one included. A backslash takes the character
after it literally and disappears before a quote, a space or another backslash; before
anything else it stays.

`Words.split` does the cutting on characters and `words` on strings; `Words.quoted` writes a
text as a single word.
-/

namespace CommandTimelines.Script

open Text

namespace Words

/-- The characters that a backslash and the character `c` after it stand for. -/
def escaped (c : Char) : List Char :=
  if c = '"' ∨ c = ' ' ∨ c = '\\' then [c] else ['\\', c]

/-- A word ended by a blank or by the end of the text: nothing if it is empty. -/
def ended (word : List Char) : List (List Char) :=
  if word = [] then [] else [word]

/-- The words of the rest of a text, when `word` has been read of the word at hand and
`quoted` says whether a quote is open. -/
def splitFrom (word : List Char) (quoted : Bool) : List Char → List (List Char)
  | [] => ended word
  | ['\\'] => [word ++ ['\\']]
  | '\\' :: c :: r => splitFrom (word ++ escaped c) quoted r
  | '"' :: r =>
    if quoted || word ≠ [] then word :: splitFrom [] (!quoted) r
    else splitFrom [] (!quoted) r
  | c :: r =>
    if isBlank c && !quoted then ended word ++ splitFrom [] quoted r
    else splitFrom (word ++ [c]) quoted r

/-- How a character is read that is neither a quote nor a backslash, outside of quotes. -/
theorem splitFrom_cons {c : Char} (hquote : c ≠ '"') (hback : c ≠ '\\') (word r : List Char) :
  splitFrom word false (c :: r)
    = if isBlank c then ended word ++ splitFrom [] false r else splitFrom (word ++ [c]) false r
  := by
  rw [splitFrom]
  · simp
  · intro hc
    exact absurd hc hback
  · intro _ _ hc
    exact absurd hc hback
  · exact hquote

/-- The words of a text. -/
def split (s : List Char) : List (List Char) := splitFrom [] false s

/-- The characters inside the quotes when a text is written as one word. -/
def shielded : List Char → List Char
  | [] => []
  | c :: r => if c = '"' ∨ c = '\\' then '\\' :: c :: shielded r else c :: shielded r

/-- A text written as one word, between quotes. -/
def quoted (s : List Char) : List Char := '"' :: shielded s ++ ['"']

end Words

/-- The words of a text. -/
def words (s : String) : List String := (Words.split s.toList).map String.ofList

end CommandTimelines.Script
