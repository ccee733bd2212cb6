import CommandTimelines.Json.Number
import CommandTimelines.Text.Ahead
import CommandTimelines.Text.Hexadecimal

/-!
# Reading JSON

The readers take the characters ahead and give the value that they begin with, and what follows
it.
-/

namespace CommandTimelines.Json

open Text Settings

/-- What follows the blanks ahead. -/
def skipBlanks (s : List Char) : List Char :=
  s.dropWhile fun c => c == ' ' || c == '\t' || c == '\n' || c == '\r'

/-- The character that a letter after a backslash stands for. -/
def escaped? : Char → Option Char
  | 'b' => some '\x08'
  | 'f' => some '\x0c'
  | 'n' => some '\n'
  | 'r' => some '\r'
  | 't' => some '\t'
  | '"' => some '"'
  | '\\' => some '\\'
  | '/' => some '/'
  | _ => none

/-- A text after its opening quote. If a high surrogate has been read, the low one must follow. -/
def text? (high : Option Nat) : List Char → Option (List Char × List Char)
  | '\\' :: 'u' :: a :: b :: c :: d :: r =>
    (hexNumber? [a, b, c, d]).bind fun n =>
      match high with
      | some h => (paired? h n).bind fun x => withChar x (text? none r)
      | none =>
        if isHighSurrogate n then text? (some n) r
        else (numbered? n).bind fun x => withChar x (text? none r)
  | '"' :: r => if high.isSome then none else some ([], r)
  | '\\' :: c :: r =>
    if high.isSome then none else (escaped? c).bind fun x => withChar x (text? none r)
  | c :: r => if high.isSome || c < ' ' then none else withChar c (text? none r)
  | [] => none

/-- Lists and tables are nested less deep than this. -/
def depthLimit : Nat := 128

mutual

/-- The value ahead, inside as many lists and tables as `depth` says. The readers go on for at
most `n` steps. -/
def valueIn? : Nat → Nat → List Char → Option (Tree × List Char)
  | 0, _, _ => none
  | n + 1, depth, s =>
    match skipBlanks s with
    | 'n' :: 'u' :: 'l' :: 'l' :: r => some (.nothing, r)
    | 't' :: 'r' :: 'u' :: 'e' :: r => some (.boolean true, r)
    | 'f' :: 'a' :: 'l' :: 's' :: 'e' :: r => some (.boolean false, r)
    | '"' :: r => (text? none r).map fun (content, r) => (.text (String.ofList content), r)
    | '[' :: r =>
      if depth + 1 < depthLimit then
        match skipBlanks r with
        | ']' :: r => some (.list [], r)
        | r => (itemsIn? n (depth + 1) r).map fun (items, r) => (.list items, r)
      else none
    | '{' :: r =>
      if depth + 1 < depthLimit then
        match skipBlanks r with
        | '}' :: r => some (.table [], r)
        | r => entriesIn? n (depth + 1) (.table []) r
      else none
    | r => number? r

/-- The rest of a list. -/
def itemsIn? : Nat → Nat → List Char → Option (List Tree × List Char)
  | 0, _, _ => none
  | n + 1, depth, s => do
    let (item, r) ← valueIn? n depth s
    match skipBlanks r with
    | ']' :: r => return ([item], r)
    | ',' :: r =>
      let (items, r) ← itemsIn? n depth r
      return (item :: items, r)
    | _ => none

/-- The rest of a table, whose entries so far are given. A key given twice has its last value. -/
def entriesIn? : Nat → Nat → Tree → List Char → Option (Tree × List Char)
  | 0, _, _, _ => none
  | n + 1, depth, t, s =>
    match skipBlanks s with
    | '"' :: r => do
      let (key, r) ← text? none r
      match skipBlanks r with
      | ':' :: r =>
        let (value, r) ← valueIn? n depth r
        let t := t.put (String.ofList key) value
        match skipBlanks r with
        | '}' :: r => return (t, r)
        | ',' :: r => entriesIn? n depth t r
        | _ => none
      | _ => none
    | _ => none

end

/-- The value that a text denotes. -/
def read? (s : String) : Option Tree :=
  let chars := s.toList
  match valueIn? (2 * chars.length + 1) 0 chars with
  | some (value, r) => if skipBlanks r = [] then some value else none
  | none => none

end CommandTimelines.Json
