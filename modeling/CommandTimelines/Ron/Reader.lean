import CommandTimelines.Ron.Lexical

/-!
# Reading RON

Tables stand between braces or, with plain names for keys, in parentheses after an optional name.
Parentheses without such keys hold a list. A name alone, like a pair of parentheses around nothing,
says that there is no value.
-/

namespace CommandTimelines.Ron

open Text Settings

/-- What the plain words denote. -/
def wordValue? (word : List Char) : Option Tree :=
  match String.ofList word with
  | "true" => some (.boolean true)
  | "false" => some (.boolean false)
  | "None" => some .nothing
  | "inf" => some (.fraction (1 / 0))
  | "NaN" => some (.fraction (0 / 0))
  | _ => none

/-- Whether what stands in parentheses begins with a plain name and a colon. -/
def namesKeys (s : List Char) : Bool :=
  match name? s with
  | none => false
  | some (_, r) => ((skipGap? r).bind (·.head?)) == some ':'

/-- Lists and tables are nested no deeper than this. -/
def depthLimit : Nat := 128

/-- What follows the closing mark ahead, before which a comma may stand. -/
def close? (closing : Char) (s : List Char) : Option (List Char) := do
  match ← skipGap? s with
  | ',' :: r =>
    let r ← skipGap? r
    if r.head? = some closing then some (r.drop 1) else none
  | r => if r.head? = some closing then some (r.drop 1) else none

mutual

/-- The value ahead, inside as many lists and tables as `depth` says. The readers go on for at
most `n` steps. -/
def valueIn? : Nat → Nat → List Char → Option (Tree × List Char)
  | 0, _, _ => none
  | n + 1, depth, s =>
    match s with
    | '[' :: r => listIn? n depth ']' r
    | '\x7b' :: r =>
      if depth < depthLimit then entriesIn? n (depth + 1) '\x7d' (.table []) r else none
    | '(' :: ')' :: r => some (.nothing, r)
    | '(' :: r => groupIn? n depth r
    | '\'' :: r => (char? r).map fun (c, r) => (.text (String.singleton c), r)
    | '-' :: 'i' :: 'n' :: 'f' :: r =>
      if r.head?.any isNameChar then none else some (.fraction (-(1 / 0)), r)
    | s =>
      match name? s with
      | some (word, r) =>
        match wordValue? word with
        | some value => some (value, r)
        | none =>
          match skipGap? r with
          | none => none
          | some ('(' :: r) =>
            if word = "Some".toList then wrappedIn? n depth r else groupIn? n depth r
          | some r => if word = "Some".toList then none else some (.nothing, r)
      | none =>
        match text? s with
        | some (content, r) => some (.text (String.ofList content), r)
        | none => number? s

/-- A value in parentheses, after the opening one. -/
def wrappedIn? : Nat → Nat → List Char → Option (Tree × List Char)
  | 0, _, _ => none
  | n + 1, depth, s =>
    if depth < depthLimit then do
      let (value, r) ← valueIn? n (depth + 1) (← skipGap? s)
      let r ← close? ')' r
      return (value, r)
    else none

/-- What stands in parentheses, after the opening one. -/
def groupIn? : Nat → Nat → List Char → Option (Tree × List Char)
  | 0, _, _ => none
  | n + 1, depth, s => do
    let s ← skipGap? s
    if namesKeys s then
      if depth < depthLimit then entriesIn? n (depth + 1) ')' (.table []) s else none
    else listIn? n depth ')' s

/-- A list, after its opening mark. -/
def listIn? : Nat → Nat → Char → List Char → Option (Tree × List Char)
  | 0, _, _, _ => none
  | n + 1, depth, closing, s =>
    if depth < depthLimit then
      (itemsIn? n (depth + 1) closing s).map fun (items, r) => (.list items, r)
    else none

/-- The rest of a list. -/
def itemsIn? : Nat → Nat → Char → List Char → Option (List Tree × List Char)
  | 0, _, _, _ => none
  | n + 1, depth, closing, s => do
    let s ← skipGap? s
    if s.head? = some closing then some ([], s.drop 1)
    else
      let (item, r) ← valueIn? n depth s
      match ← skipGap? r with
      | ',' :: r =>
        let (items, r) ← itemsIn? n depth closing r
        return (item :: items, r)
      | r => if r.head? = some closing then some ([item], r.drop 1) else none

/-- The rest of a table, whose entries so far are given. A key given twice has its last value. -/
def entriesIn? : Nat → Nat → Char → Tree → List Char → Option (Tree × List Char)
  | 0, _, _, _, _ => none
  | n + 1, depth, closing, t, s => do
    let s ← skipGap? s
    if s.head? = some closing then some (t, s.drop 1)
    else
      let (key, r) ← keyIn? n depth closing s
      match ← skipGap? r with
      | ':' :: r =>
        let (value, r) ← valueIn? n depth (← skipGap? r)
        let t := t.put key value
        match ← skipGap? r with
        | ',' :: r => entriesIn? n depth closing t r
        | r => if r.head? = some closing then some (t, r.drop 1) else none
      | _ => none

/-- The key of an entry: a plain name in parentheses, and a text between braces. -/
def keyIn? : Nat → Nat → Char → List Char → Option (String × List Char)
  | 0, _, _, _ => none
  | n + 1, depth, closing, s =>
    if closing = ')' then (name? s).map fun (name, r) => (String.ofList name, r)
    else
      match valueIn? n depth s with
      | some (.text key, r) => some (key, r)
      | _ => none

end

/-! ### Documents -/

/-- The extensions that a document may ask for. None of them matters here. -/
def extensions : List String := ["unwrap_newtypes", "implicit_some", "unwrap_variant_newtypes"]

/-- What follows the names of extensions ahead, at most `n` of them. -/
def extensionsIn? : Nat → List Char → Option (List Char)
  | 0, _ => none
  | n + 1, s => do
    let (name, r) ← name? (← skipGap? s)
    if String.ofList name ∉ extensions then none
    else
      match ← skipGap? r with
      | ',' :: r =>
        let r ← skipGap? r
        if r.head?.any isNameChar then extensionsIn? n r else some r
      | r => some r

/-- What follows some marks ahead, with blanks and comments between them. -/
def marks? : List (List Char) → List Char → Option (List Char)
  | [], s => some s
  | mark :: rest, s => do
    let s ← skipGap? s
    marks? rest (← mark.isPrefixOf? s)

/-- What follows at most `n` lines that ask for extensions. -/
def headIn? : Nat → List Char → Option (List Char)
  | 0, s => some s
  | n + 1, s => do
    match ← skipGap? s with
    | '#' :: r =>
      let r ← marks? [['!'], ['['], "enable".toList, ['(']] r
      let r ← extensionsIn? r.length r
      headIn? n (← marks? [[')'], [']']] r)
    | r => some r

/-- The value that a text denotes. -/
def read? (s : String) : Option Tree := do
  let chars := s.toList
  let body ← headIn? chars.length chars
  let (value, r) ← valueIn? (4 * chars.length + 4) 0 body
  let rest ← skipGap? r
  if rest = [] then some value else none

end CommandTimelines.Ron
