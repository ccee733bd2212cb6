import CommandTimelines.Text.Ahead
import CommandTimelines.Text.Hexadecimal

/-!
# Texts and keys of TOML

Readers of the smallest parts of a document. Each takes the characters ahead and gives what it
has read with the characters that follow, or nothing if they do not begin with such a part.
-/

namespace CommandTimelines.Toml

open Text

/-- Whether a character is a space or a tab. -/
def isSpace (c : Char) : Bool := c == ' ' || c == '\t'

/-- Whether a character may stand in a comment or a text. -/
def isVisible (c : Char) : Bool := c == '\t' || (' ' ≤ c && c ≠ '\x7f')

/-- What follows the spaces ahead. -/
def skipSpaces (s : List Char) : List Char := s.dropWhile isSpace

/-- What follows the line break ahead. -/
def lineBreak? : List Char → Option (List Char)
  | '\n' :: r => some r
  | '\r' :: '\n' :: r => some r
  | _ => none

/-- What follows the comment ahead, if there is one. -/
def skipComment : List Char → List Char
  | '#' :: r => r.dropWhile isVisible
  | s => s

/-- What follows the end of the line ahead, before which only a comment may stand. -/
def lineEnd? (s : List Char) : Option (List Char) :=
  match skipComment (skipSpaces s) with
  | [] => some []
  | r => lineBreak? r

/-- What follows the spaces, line breaks and comments ahead. -/
def skipGap (inComment : Bool) : List Char → List Char
  | [] => []
  | '\r' :: '\n' :: r => skipGap false r
  | c :: r =>
    if c = '\n' then skipGap false r
    else if inComment then if isVisible c then skipGap true r else c :: r
    else if isSpace c then skipGap false r
    else if c = '#' then skipGap true r
    else c :: r

/-! ### Texts -/

/-- The character that a letter after a backslash stands for. -/
def escaped? : Char → Option Char
  | 'b' => some '\x08'
  | 't' => some '\t'
  | 'n' => some '\n'
  | 'f' => some '\x0c'
  | 'r' => some '\r'
  | '"' => some '"'
  | '\\' => some '\\'
  | _ => none

/-- A text in one line, after its opening quote. -/
def basicText? : List Char → Option (List Char × List Char)
  | '"' :: r => some ([], r)
  | '\\' :: 'u' :: a :: b :: c :: d :: r =>
    (scalar? [a, b, c, d]).bind fun x => withChar x (basicText? r)
  | '\\' :: 'U' :: a :: b :: c :: d :: e :: f :: g :: h :: r =>
    (scalar? [a, b, c, d, e, f, g, h]).bind fun x => withChar x (basicText? r)
  | '\\' :: c :: r => (escaped? c).bind fun x => withChar x (basicText? r)
  | c :: r => if isVisible c then withChar c (basicText? r) else none
  | [] => none

/-- A text in one line that is taken as it stands, after its opening quote. -/
def literalText? : List Char → Option (List Char × List Char)
  | '\'' :: r => some ([], r)
  | c :: r => if isVisible c then withChar c (literalText? r) else none
  | [] => none

/-- Up to two further quotes, which belong to the text that three quotes have ended. -/
def trailingQuotes (quote : Char) : List Char → List Char × List Char
  | a :: b :: r =>
    if a = quote then if b = quote then ([a, b], r) else ([a], b :: r) else ([], a :: b :: r)
  | [a] => if a = quote then ([a], []) else ([], [a])
  | [] => ([], [])

/-- Whether only spaces stand before the next line break. -/
def endsLine (s : List Char) : Bool := (lineBreak? (skipSpaces s)).isSome

/-- A text in several lines, after its opening quotes. While `skipping`, blanks are passed over:
a backslash at the end of a line joins it with the next text. -/
def longText? (skipping : Bool) : List Char → Option (List Char × List Char)
  | '"' :: '"' :: '"' :: r => some (trailingQuotes '"' r)
  | '\r' :: '\n' :: r => if skipping then longText? true r else withChar '\n' (longText? false r)
  | '\\' :: 'u' :: a :: b :: c :: d :: r =>
    (scalar? [a, b, c, d]).bind fun x => withChar x (longText? false r)
  | '\\' :: 'U' :: a :: b :: c :: d :: e :: f :: g :: h :: r =>
    (scalar? [a, b, c, d, e, f, g, h]).bind fun x => withChar x (longText? false r)
  | '\\' :: c :: r =>
    if endsLine (c :: r) then longText? true (c :: r)
    else (escaped? c).bind fun x => withChar x (longText? false r)
  | c :: r =>
    if skipping && (isSpace c || c == '\n') then longText? true r
    else if isVisible c || c == '\n' then withChar c (longText? false r)
    else none
  | [] => none

/-- A text in several lines that is taken as it stands, after its opening quotes. -/
def longLiteralText? : List Char → Option (List Char × List Char)
  | '\'' :: '\'' :: '\'' :: r => some (trailingQuotes '\'' r)
  | '\r' :: '\n' :: r => withChar '\n' (longLiteralText? r)
  | c :: r => if isVisible c || c == '\n' then withChar c (longLiteralText? r) else none
  | [] => none

/-- What follows the line break that a text in several lines may start with. -/
def skipFirstBreak (s : List Char) : List Char := (lineBreak? s).getD s

/-- A text with its quotes. -/
def text? : List Char → Option (List Char × List Char)
  | '"' :: '"' :: '"' :: r => longText? false (skipFirstBreak r)
  | '\'' :: '\'' :: '\'' :: r => longLiteralText? (skipFirstBreak r)
  | '"' :: r => basicText? r
  | '\'' :: r => literalText? r
  | _ => none

/-! ### Keys -/

/-- Whether a character may stand in a key without quotes. -/
def isBareKey (c : Char) : Bool := c.isAlphanum || c == '_' || c == '-'

/-- One key. -/
def key? : List Char → Option (String × List Char)
  | '"' :: r => (basicText? r).map fun (s, r) => (String.ofList s, r)
  | '\'' :: r => (literalText? r).map fun (s, r) => (String.ofList s, r)
  | s =>
    match s.takeWhile isBareKey with
    | [] => none
    | name => some (String.ofList name, s.dropWhile isBareKey)

/-- At most `n + 1` keys with dots between them. -/
def keysIn? : Nat → List Char → Option (List String × List Char)
  | 0, _ => none
  | n + 1, s => do
    let (key, r) ← key? (skipSpaces s)
    match skipSpaces r with
    | '.' :: r =>
      let (keys, r) ← keysIn? n r
      return (key :: keys, r)
    | r => return ([key], r)

/-- Lists, tables in braces and the keys of a dotted key are nested less deep than this. -/
def depthLimit : Nat := 80

/-- A dotted key, with the spaces around it: the keys before the last dot, and the last key. -/
def dottedKey? (s : List Char) : Option ((List String × String) × List Char) := do
  let (keys, r) ← keysIn? s.length s
  let last ← keys.getLast?
  if keys.length < depthLimit then some ((keys.dropLast, last), r) else none

end CommandTimelines.Toml
