import CommandTimelines.Settings.Tree
import CommandTimelines.Text.Ahead
import CommandTimelines.Text.Blank
import CommandTimelines.Text.Fraction
import CommandTimelines.Text.Hexadecimal

/-!
# Reading JSON5

JSON as it is written by hand: with comments, with either kind of quotes, with keys that are plain
names, with a comma after the last item, and with more ways to write a number.
-/

namespace CommandTimelines.Json5

open Text Settings

/-! ### Blanks and comments -/

/-- Whether a character ends a line. -/
def endsLine (c : Char) : Bool := c == '\n' || c == '\r' || c == '\u2028' || c == '\u2029'

/-- Whether a character counts as a blank. -/
def isSpace (c : Char) : Bool := (isBlank c && c ≠ '\x85') || c == '\ufeff'

/-- What is passed over. -/
inductive Gap where
  | blanks
  /-- A comment up to the end of the line. -/
  | line
  /-- A comment up to its closing mark. -/
  | block
deriving DecidableEq, Repr

/-- What follows the blanks and comments ahead; none if a comment is not closed. -/
def skipGap? (gap : Gap) : List Char → Option (List Char)
  | [] => if gap = .block then none else some []
  | '*' :: '/' :: r =>
    match gap with
    | .blanks => some ('*' :: '/' :: r)
    | .line => skipGap? .line r
    | .block => skipGap? .blanks r
  | '/' :: '/' :: r =>
    match gap with
    | .block => skipGap? .block ('/' :: r)
    | _ => skipGap? .line r
  | '/' :: '*' :: r =>
    match gap with
    | .blanks => skipGap? .block r
    | _ => skipGap? gap ('*' :: r)
  | c :: r =>
    match gap with
    | .blanks => if isSpace c then skipGap? .blanks r else some (c :: r)
    | .line => skipGap? (if endsLine c then .blanks else .line) r
    | .block => skipGap? .block r
termination_by s => s.length

/-! ### Texts and names -/

/-- The character that a character after a backslash stands for. No digit but zero stands for
anything. -/
def escaped? : Char → Option Char
  | 'b' => some '\x08'
  | 'f' => some '\x0c'
  | 'n' => some '\n'
  | 'r' => some '\r'
  | 't' => some '\t'
  | 'v' => some '\x0b'
  | '0' => some '\x00'
  | c => if c.isDigit || c == 'x' || c == 'u' then none else some c

/-- A text after its opening quote. If a high surrogate has been read, the low one must follow. A
backslash at the end of a line joins it with the next one. -/
def text? (quote : Char) (high : Option Nat) : List Char → Option (List Char × List Char)
  | [] => none
  | '\\' :: 'u' :: a :: b :: c :: d :: r =>
    (hexNumber? [a, b, c, d]).bind fun n =>
      match high with
      | some h => (paired? h n).bind fun x => withChar x (text? quote none r)
      | none =>
        if isHighSurrogate n then text? quote (some n) r
        else (numbered? n).bind fun x => withChar x (text? quote none r)
  | '\\' :: 'x' :: a :: b :: r =>
    if high.isSome then none
    else (scalar? [a, b]).bind fun x => withChar x (text? quote none r)
  | '\\' :: '\r' :: '\n' :: r => if high.isSome then none else text? quote none r
  | '\\' :: c :: r =>
    if high.isSome then none
    else if endsLine c then text? quote none r
    else (escaped? c).bind fun x => withChar x (text? quote none r)
  | c :: r =>
    if high.isSome || c == '\n' || c == '\r' then none
    else if c = quote then some ([], r)
    else withChar c (text? quote none r)

/-- Whether a name may start with a character. -/
def beginsName (c : Char) : Bool :=
  c.isAlpha || c == '$' || c == '_' || ('\x7f' < c && !isSpace c)

/-- The rest of a name, some of whose characters may have been read. A digit does not come
first, and `\u` with four digits stands for a character. -/
def nameRest (isFirst : Bool) : List Char → Option (List Char × List Char)
  | '\\' :: 'u' :: a :: b :: c :: d :: r =>
    (scalar? [a, b, c, d]).bind fun x => withChar x (nameRest false r)
  | c :: r =>
    if beginsName c || (c.isDigit && !isFirst) then withChar c (nameRest false r)
    else if isFirst then none
    else some ([], c :: r)
  | [] => if isFirst then none else some ([], [])

/-- The key of an entry ahead. -/
def key? : List Char → Option (List Char × List Char)
  | '"' :: r => text? '"' none r
  | '\'' :: r => text? '\'' none r
  | s => nameRest true s

/-! ### Numbers -/

/-- The value of a number without a sign in front of it. It begins with a zero only if no other
digit stands before the point. -/
def unsigned? (body : List Char) : Option Float :=
  let whole := body.takeWhile Char.isDigit
  if whole.head? = some '0' ∧ whole ≠ ['0'] then none
  else (unsignedFraction? body).filter fun x => x != 1 / 0

/-- The value of a number: an integer if it has neither a point nor an exponent. -/
def number? (s : List Char) : Option Tree :=
  let (negative, body) := splitSign s
  let hasPlus := s.head? == some '+'
  match s with
  | '0' :: 'x' :: digits | '0' :: 'X' :: digits =>
    ((hexNumber? digits).filter fun n => digits ≠ [] && n < 4294967296).map fun n => .integer n
  | _ =>
    if String.ofList body = "Infinity" then
      if hasPlus then none else some (.fraction (withSign negative (1 / 0)))
    else if String.ofList body = "NaN" then
      if hasPlus then none else some (.fraction (0 / 0))
    else
      (unsigned? body).bind fun x =>
        if body.all Char.isDigit then ((integer? s).filter fitsSigned).map .integer
        else some (.fraction (withSign negative x))

/-- Whether a character belongs to a word: a number or one of the plain words. -/
def isWordChar (c : Char) : Bool := c.isAlphanum || c == '+' || c == '-' || c == '.'

/-- What a word denotes. -/
def wordValue? (word : List Char) : Option Tree :=
  match String.ofList word with
  | "null" => some .nothing
  | "true" => some (.boolean true)
  | "false" => some (.boolean false)
  | _ => number? word

/-! ### Values -/

mutual

/-- The value ahead. The readers go on for at most `n` steps. -/
def valueIn? : Nat → List Char → Option (Tree × List Char)
  | 0, _ => none
  | n + 1, s => do
    match ← skipGap? .blanks s with
    | '"' :: r => (text? '"' none r).map fun (content, r) => (.text (String.ofList content), r)
    | '\'' :: r => (text? '\'' none r).map fun (content, r) => (.text (String.ofList content), r)
    | '[' :: r =>
      match ← skipGap? .blanks r with
      | ']' :: r => some (.list [], r)
      | r => (itemsIn? n r).map fun (items, r) => (.list items, r)
    | '{' :: r =>
      match ← skipGap? .blanks r with
      | '}' :: r => some (.table [], r)
      | r => entriesIn? n (.table []) r
    | r => (wordValue? (r.takeWhile isWordChar)).map fun value => (value, r.dropWhile isWordChar)

/-- The rest of a list. -/
def itemsIn? : Nat → List Char → Option (List Tree × List Char)
  | 0, _ => none
  | n + 1, s => do
    let (item, r) ← valueIn? n s
    match ← skipGap? .blanks r with
    | ']' :: r => return ([item], r)
    | ',' :: r =>
      match ← skipGap? .blanks r with
      | ']' :: r => return ([item], r)
      | r =>
        let (items, r) ← itemsIn? n r
        return (item :: items, r)
    | _ => none

/-- The rest of a table, whose entries so far are given. A key given twice has its last value. -/
def entriesIn? : Nat → Tree → List Char → Option (Tree × List Char)
  | 0, _, _ => none
  | n + 1, t, s => do
    let (key, r) ← key? (← skipGap? .blanks s)
    match ← skipGap? .blanks r with
    | ':' :: r =>
      let (value, r) ← valueIn? n r
      let t := t.put (String.ofList key) value
      match ← skipGap? .blanks r with
      | '}' :: r => return (t, r)
      | ',' :: r =>
        match ← skipGap? .blanks r with
        | '}' :: r => return (t, r)
        | r => entriesIn? n t r
      | _ => none
    | _ => none

end

/-- The value that a text denotes. -/
def read? (s : String) : Option Tree := do
  let chars := s.toList
  let (value, r) ← valueIn? (2 * chars.length + 1) chars
  let rest ← skipGap? .blanks r
  if rest = [] then some value else none

end CommandTimelines.Json5
