import CommandTimelines.Settings.Tree
import CommandTimelines.Text.Ahead
import CommandTimelines.Text.Blank
import CommandTimelines.Text.Hexadecimal

/-!
# Reading INI

A list of keys with texts, divided into sections under headers in square brackets. A key ends
where its mark stands, even lines further down, and a backslash takes away the meaning of the
character after it.
-/

namespace CommandTimelines.Ini

open Text Settings

/-- The character that a character after a backslash stands for. -/
def escaped : Char → Char
  | '0' => '\x00'
  | 'a' => '\x07'
  | 'b' => '\x08'
  | 't' => '\t'
  | 'r' => '\r'
  | 'n' => '\n'
  | c => c

/-- The text up to a character that ends it, and what follows from there. Some texts may also be
ended by the end of the file. -/
def textUntil? (ends : Char → Bool) (endsAlone : Bool) :
    List Char → Option (List Char × List Char)
  | [] => if endsAlone then some ([], []) else none
  | '\\' :: 'x' :: a :: b :: c :: d :: r =>
    (scalar? [a, b, c, d]).bind fun x => withChar x (textUntil? ends endsAlone r)
  | '\\' :: '\n' :: r => textUntil? ends endsAlone r
  | '\\' :: c :: r =>
    if c = 'x' then none else withChar (escaped c) (textUntil? ends endsAlone r)
  | c :: r =>
    if ends c then some ([], c :: r)
    else if c = '\\' then none
    else withChar c (textUntil? ends endsAlone r)

/-- Whether a character ends the name of a section. -/
def endsSection (c : Char) : Bool := c == ']'

/-- Whether a character ends a key. -/
def endsKey (c : Char) : Bool := c == '=' || c == ':'

/-- Whether a character ends a line. -/
def endsLine (c : Char) : Bool := c == '\n' || c == '\r'

/-- What follows the blanks ahead in the same line. -/
def skipSpaces (s : List Char) : List Char := s.dropWhile fun c => isBlank c && !endsLine c

/-- The rest of a line. -/
def line? (s : List Char) : Option (List Char × List Char) := textUntil? endsLine true s

/-- A text in quotes, after its opening quote, together with what follows it in its line. -/
def quoted? (quote : Char) (s : List Char) : Option (List Char × List Char) := do
  let (inner, r) ← textUntil? (· == quote) false s
  let (outer, r) ← line? (r.drop 1)
  return (inner ++ outer, r)

/-- The text of a key, after its mark. -/
def value? (s : List Char) : Option (List Char × List Char) :=
  match skipSpaces s with
  | '"' :: r => quoted? '"' r
  | '\'' :: r => quoted? '\'' r
  | r => line? r

/-- What follows the blanks ahead, and whether a line begins there. -/
def skipBlanks (beginsLine : Bool) : List Char → Bool × List Char
  | [] => (beginsLine, [])
  | c :: r => if isBlank c then skipBlanks (c == '\n') r else (beginsLine, c :: r)

/-- What has been read of a file. -/
structure Reading where
  /-- The keys and the sections. -/
  table : Tree
  /-- The section at hand. -/
  heading? : Option String
  /-- The key whose mark is to follow. -/
  key : List Char

namespace Reading

/-- Nothing read yet. -/
def start : Reading := ⟨.table [], none, []⟩

/-- After the header of a section. A second section of a name takes the place of the first. -/
def openSection (reading : Reading) (name : List Char) : Reading :=
  let name := String.ofList (trim name)
  { reading with table := reading.table.put name (.table []), heading? := some name }

/-- After the text of the key at hand. -/
def define (reading : Reading) (value : List Char) : Reading :=
  let key := String.ofList reading.key
  let value := Tree.text (String.ofList (trim value))
  let table := match reading.heading? with
    | none => reading.table.put key value
    | some name =>
      reading.table.put name (((reading.table.get? name).getD (.table [])).put key value)
  { reading with table, key := [] }

/-- After at most `n` parts of a file. A comment stands in a line of its own, from its very
start. -/
def partsIn? : Nat → Bool → Reading → List Char → Option Reading
  | 0, _, _, _ => none
  | n + 1, beginsLine, reading, s =>
    let (beginsLine, s) := skipBlanks beginsLine s
    match s with
    | [] => some reading
    | '[' :: r => do
      let (name, r) ← textUntil? endsSection false r
      partsIn? n false (reading.openSection name) (r.drop 1)
    | c :: r =>
      if c = ';' ∨ c = '#' then
        if beginsLine then partsIn? n true reading ((r.dropWhile (· ≠ '\n')).drop 1) else none
      else if endsKey c then
        if reading.key = [] then none
        else do
          let (value, r) ← value? r
          partsIn? n false (reading.define value) r
      else do
        let (key, r) ← textUntil? endsKey false (c :: r)
        partsIn? n false { reading with key := trim key } r

end Reading

/-- The table that a text denotes. -/
def read? (s : String) : Option Tree :=
  let chars := s.toList
  (Reading.partsIn? (chars.length + 1) true .start chars).map (·.table)

end CommandTimelines.Ini
