import CommandTimelines.Toml.Moment
import CommandTimelines.Toml.Number
import CommandTimelines.Toml.Value

/-!
# Reading values of TOML

Numbers, truth values and dates are words: the longest stretch of letters, digits and a few
signs, read as a whole. Lists may run over several lines and may end in a comma; tables in
braces may do neither.
-/

namespace CommandTimelines.Toml

/-- Whether a character belongs to a word. -/
def isWordChar (c : Char) : Bool :=
  c.isAlphanum || c == '+' || c == '-' || c == '_' || c == '.' || c == ':'

/-- What a word denotes. -/
def wordValue? (word : List Char) : Option Value :=
  if word = ['t', 'r', 'u', 'e'] then some (.boolean true)
  else if word = ['f', 'a', 'l', 's', 'e'] then some (.boolean false)
  else match integer? word with
    | some n => some (.integer n)
    | none =>
      match fraction? word with
      | some x => some (.fraction x)
      | none => (moment? word).map fun s => .moment (String.ofList s)

/-- The word ahead. A single space may stand between a date and a time. -/
def word (s : List Char) : List Char × List Char :=
  let first := s.takeWhile isWordChar
  match s.drop first.length with
  | ' ' :: r =>
    let second := r.takeWhile isWordChar
    if isDate first && (second.head?.any Char.isDigit) then
      (first ++ ' ' :: second, r.drop second.length)
    else (first, ' ' :: r)
  | r => (first, r)

mutual

/-- The value ahead, inside as many lists and tables in braces as `depth` says. The readers go
on for at most `n` steps. -/
def valueIn? : Nat → Nat → List Char → Option (Value × List Char)
  | 0, _, _ => none
  | n + 1, depth, s =>
    match s with
    | '[' :: r =>
      if depth + 1 < depthLimit then
        (itemsIn? n (depth + 1) r).map fun (items, r) => (.list false items, r)
      else none
    | '{' :: r =>
      if depth + 1 < depthLimit then
        match skipSpaces r with
        | '}' :: r => some (.table .braces [], r)
        | r =>
          (entriesIn? n (depth + 1) (.empty .header) r).map fun (t, r) =>
            (.table .braces t.entries, r)
      else none
    | _ =>
      match text? s with
      | some (content, r) => some (.text (String.ofList content), r)
      | none => (wordValue? (word s).1).map fun value => (value, (word s).2)

/-- The rest of a list. -/
def itemsIn? : Nat → Nat → List Char → Option (List Value × List Char)
  | 0, _, _ => none
  | n + 1, depth, s =>
    match skipGap false s with
    | ']' :: r => some ([], r)
    | r => do
      let (item, r) ← valueIn? n depth r
      match skipGap false r with
      | ']' :: r => return ([item], r)
      | ',' :: r =>
        let (items, r) ← itemsIn? n depth r
        return (item :: items, r)
      | _ => none

/-- The rest of a table in braces, whose entries so far are given. -/
def entriesIn? : Nat → Nat → Table → List Char → Option (Table × List Char)
  | 0, _, _, _ => none
  | n + 1, depth, t, s => do
    let ((path, key), r) ← dottedKey? s
    match r with
    | '=' :: r =>
      let (value, r) ← valueIn? n depth (skipSpaces r)
      let t ← t.define path key value
      match skipSpaces r with
      | '}' :: r => return (t, r)
      | ',' :: r => entriesIn? n depth t r
      | _ => none
    | _ => none

end

/-- The value ahead. -/
def value? (s : List Char) : Option (Value × List Char) := valueIn? (2 * s.length + 1) 0 s

end CommandTimelines.Toml
