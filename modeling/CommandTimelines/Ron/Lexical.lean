import CommandTimelines.Settings.Tree
import CommandTimelines.Text.Fraction
import CommandTimelines.Text.Hexadecimal

/-!
# Words, numbers and texts of RON

Readers of the smallest parts of a document. Each takes the characters ahead and gives what it
has read with the characters that follow.
-/

namespace CommandTimelines.Ron

open Text Settings

/-! ### Blanks and comments -/

/-- Whether a character is a blank. -/
def isSpace (c : Char) : Bool := c == ' ' || c == '\t' || c == '\n' || c == '\r'

/-- What follows the comment that stands inside `depth` others, of which each has to be closed;
none if one is not. -/
def closed? (depth : Nat) : List Char → Option (List Char)
  | '/' :: '*' :: r => closed? (depth + 1) r
  | '*' :: '/' :: r => if depth = 0 then some r else closed? (depth - 1) r
  | _ :: r => closed? depth r
  | [] => none

/-- What follows at most `n` stretches of blanks and comments; none if a comment is not one. -/
def gapIn? : Nat → List Char → Option (List Char)
  | 0, s => some s
  | n + 1, s =>
    match s.dropWhile isSpace with
    | '/' :: '/' :: r => gapIn? n (r.dropWhile (· ≠ '\n'))
    | '/' :: '*' :: r => (closed? 0 r).bind (gapIn? n)
    | '/' :: _ => none
    | r => some r

/-- What follows the blanks and comments ahead. -/
def skipGap? (s : List Char) : Option (List Char) := gapIn? (s.length + 1) s

/-! ### Names -/

/-- Whether a name may start with a character. -/
def beginsName (c : Char) : Bool := c.isAlpha || c == '_'

/-- Whether a character may stand in a name. -/
def isNameChar (c : Char) : Bool := c.isAlphanum || c == '_'

/-- Whether a character may stand in a name that `r#` announces. -/
def isRawNameChar (c : Char) : Bool := isNameChar c || c == '.' || c == '+' || c == '-'

/-- The name ahead, if there is one. One that goes on with characters of announced names is
none. -/
def name? : List Char → Option (List Char × List Char)
  | 'r' :: '"' :: _ => none
  | 'r' :: '#' :: r =>
    match r.takeWhile isRawNameChar with
    | [] => none
    | name => some (name, r.dropWhile isRawNameChar)
  | c :: r =>
    let rest := r.dropWhile isNameChar
    if !beginsName c || rest.head?.any isRawNameChar then none
    else some (c :: r.takeWhile isNameChar, rest)
  | [] => none

/-! ### Numbers -/

/-- Whether a character may stand in a fraction. -/
def isFractionChar (c : Char) : Bool :=
  c.isDigit || c == 'e' || c == 'E' || c == '.' || c == '+' || c == '-' || c == '_'

/-- Whether a character may stand in an integer. -/
def isIntegerChar (c : Char) : Bool := isHexDigit c || c == '_'

/-- The number that digits to a base denote. Underscores do not count, except at the start. -/
def inBase? (base : Nat) (digits : List Char) : Option Nat :=
  if digits = [] ∨ digits.head? = some '_' then none
  else numberTo? base (digits.filter (· ≠ '_'))

/-- The integer without a sign ahead. -/
def unsigned? : List Char → Option (Nat × List Char)
  | '0' :: 'x' :: r => (inBase? 16 (r.takeWhile isIntegerChar)).map (·, r.dropWhile isIntegerChar)
  | '0' :: 'b' :: r => (inBase? 2 (r.takeWhile isIntegerChar)).map (·, r.dropWhile isIntegerChar)
  | '0' :: 'o' :: r => (inBase? 8 (r.takeWhile isIntegerChar)).map (·, r.dropWhile isIntegerChar)
  | s => (inBase? 10 (s.takeWhile isIntegerChar)).map (·, s.dropWhile isIntegerChar)

/-- The value of an integer, if it fits 64 bits, with a sign or without one. One that fits only
without a sign becomes a fraction. -/
def integer? (hasSign negative : Bool) (n : Nat) : Option Tree :=
  let signed : Int := if negative then -n else n
  if fitsSigned signed then some (.integer signed)
  else if hasSign || wordLimit ≤ n then none
  else some (.fraction n.toUInt64.toFloat)

/-- The fraction ahead. -/
def fractionAhead? (s : List Char) : Option (Tree × List Char) :=
  let word := s.takeWhile isFractionChar
  (unsignedFraction? (splitSign word).2).map fun x =>
    (.fraction (withSign (splitSign word).1 x), s.drop word.length)

/-- The number ahead. It is an integer unless more characters of a fraction stand there, or it is
too great for one. -/
def number? (s : List Char) : Option (Tree × List Char) :=
  let (negative, body) := splitSign s
  let hasSign := body.length < s.length
  let integerLength := (body.takeWhile isIntegerChar).length
  let asInteger? : Option (Tree × List Char) := do
    let (n, r) ← unsigned? body
    let value ← integer? hasSign negative n
    return (value, r)
  if integerLength < (body.takeWhile isFractionChar).length then fractionAhead? s
  else match asInteger? with
    | some result => some result
    | none => fractionAhead? s

/-! ### Texts -/

/-- The character that a character after a backslash stands for. -/
def escaped? : Char → Option Char
  | 'n' => some '\n'
  | 'r' => some '\r'
  | 't' => some '\t'
  | '0' => some '\x00'
  | '\'' => some '\''
  | '"' => some '"'
  | '\\' => some '\\'
  | _ => none

/-- The character that what stands after a backslash stands for, and what follows it. -/
def escape? : List Char → Option (Char × List Char)
  | 'x' :: a :: b :: r => (scalar? [a, b]).map (·, r)
  | 'u' :: '\x7b' :: r =>
    let digits := r.takeWhile (· ≠ '\x7d')
    if digits = [] ∨ 6 < digits.length ∨ digits.length = r.length then none
    else (scalar? digits).map (·, r.drop (digits.length + 1))
  | c :: r => (escaped? c).map (·, r)
  | [] => none

/-- A text after its opening quote, in at most `n` characters. -/
def textIn? : Nat → List Char → Option (List Char × List Char)
  | 0, _ => none
  | n + 1, s =>
    match s with
    | '"' :: r => some ([], r)
    | '\\' :: r => do
      let (c, r) ← escape? r
      let (text, r) ← textIn? n r
      return (c :: text, r)
    | c :: r => (textIn? n r).map fun (text, r) => (c :: text, r)
    | [] => none

/-- A text that is taken as it stands up to its closing marks. -/
def rawText? (closing : List Char) : List Char → Option (List Char × List Char)
  | [] => none
  | c :: r =>
    match closing.isPrefixOf? (c :: r) with
    | some rest => some ([], rest)
    | none => (rawText? closing r).map fun (text, r) => (c :: text, r)

/-- A text with its quotes. -/
def text? : List Char → Option (List Char × List Char)
  | '"' :: r => textIn? (r.length + 1) r
  | 'r' :: r =>
    let marks := r.takeWhile (· == '#')
    match r.drop marks.length with
    | '"' :: r => rawText? ('"' :: marks) r
    | _ => none
  | _ => none

/-- A single character, after its opening quote. -/
def char? : List Char → Option (Char × List Char)
  | '\\' :: r =>
    match escape? r with
    | some (c, '\'' :: r) => some (c, r)
    | _ => none
  | c :: '\'' :: r => if c = '\'' then none else some (c, r)
  | _ => none

end CommandTimelines.Ron
