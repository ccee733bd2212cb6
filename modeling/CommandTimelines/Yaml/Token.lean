import CommandTimelines.Yaml.Scalar

/-!
# Tokens of YAML

A document is cut into tokens: scalars, marks, and the starts and ends of blocks, which follow from
how far lines are indented. That something was the key of an entry shows only at the colon after
it, so the place of everything that may turn out to be a key is kept, and its token is put in
afterwards.
-/

namespace CommandTimelines.Yaml

open Text

/-- A token. -/
inductive Token where
  /-- A line that is addressed to the reader of the document. -/
  | directive
  | documentStart
  | documentEnd
  | blockSequence
  | blockMapping
  | blockEnd
  | flowSequence
  | flowSequenceEnd
  | flowMapping
  | flowMappingEnd
  /-- The hyphen in front of an item. -/
  | blockEntry
  /-- The comma between items. -/
  | flowEntry
  | key
  | value
  | alias (name : String)
  | anchor (name : String)
  | tag (handle suffix : String)
  | scalar (isPlain : Bool) (text : String)
deriving DecidableEq, Repr

/-- The place of something that may turn out to be a key. -/
structure KeyPlace where
  /-- Whether it has to be one. -/
  required : Bool
  /-- How many tokens stand before it. -/
  before : Nat
  index : Nat
  line : Nat
  column : Nat

/-- The furthest that the colon may stand behind the start of its key, in characters. -/
def keyReach : Nat := 1024

/-- Whether something can no longer be a key at a place, because it is too far away or in another
line. -/
def KeyPlace.isPast (k : KeyPlace) (a : Spot) : Bool :=
  k.line < a.line || k.index + keyReach < a.index

/-- The most brackets and braces that are open at once. -/
def flowLimit : Nat := 255

/-- A document that is being cut into tokens. -/
structure Scan where
  tokens : List Token := []
  /-- How far the block at hand is indented; one less than nothing outside all blocks. -/
  indent : Int := -1
  /-- How far the blocks around it are, the innermost first. -/
  outerIndents : List Int := []
  /-- What may turn out to be a key. -/
  key : Option KeyPlace := none
  /-- The same for what is around each open bracket or brace, the innermost first. -/
  outerKeys : List (Option KeyPlace) := []
  /-- Whether a key may begin here. -/
  keyAllowed : Bool := true
  /-- The place right after a scalar in quotes, where a colon may follow at once. -/
  afterQuote : Nat := 0

namespace Scan

variable (s : Scan)

/-- Whether a bracket or brace is open. -/
def inFlow : Bool := !s.outerKeys.isEmpty

/-- With one more token. -/
def push (t : Token) : Scan := { s with tokens := s.tokens ++ [t] }

/-- With the end of every block that is indented further than a column, if its own indentation
and those around it are given. -/
def closeIn (column : Int) : List Int → Scan → Scan
  | [], s => s
  | outer :: rest, s =>
    if column < s.indent then
      closeIn column rest { s.push .blockEnd with indent := outer, outerIndents := rest }
    else s

/-- With the end of every block that is indented further than a column. -/
def close (column : Int) : Scan :=
  if s.inFlow then s else closeIn column s.outerIndents s

/-- With the start of a block at a column, put in after some tokens, unless a block that is
indented as far is at hand. -/
def openBlock (column before : Nat) (t : Token) : Scan :=
  if s.inFlow || (column : Int) ≤ s.indent then s
  else
    { s with
      indent := column
      outerIndents := s.indent :: s.outerIndents
      tokens := s.tokens.insertIdx before t }

/-- With what is ahead as something that is no key. -/
def forgetKey? : Option Scan :=
  if s.key.any (·.required) then none else some { s with key := none }

/-- With what is ahead as something that may turn out to be a key. -/
def noteKey? (a : Spot) : Option Scan :=
  if s.keyAllowed then do
    let s ← s.forgetKey?
    let required := s.inFlow && s.indent == a.column
    return { s with key := some ⟨required, s.tokens.length, a.index, a.line, a.column⟩ }
  else some s

/-- What can still be a key at a place; none if it has to be one. -/
def fresh? (a : Spot) : Option KeyPlace → Option (Option KeyPlace)
  | none => some none
  | some k => if !k.isPast a then some (some k) else if k.required then none else some none

/-- Without what can no longer be a key. -/
def refresh? (a : Spot) : Option Scan := do
  let key ← fresh? a s.key
  let outerKeys ← s.outerKeys.mapM (fresh? a)
  return { s with key, outerKeys }

/-- After a bracket or brace that opens. -/
def openFlow? (a : Spot) (t : Token) : Option Scan := do
  let s ← s.noteKey? a
  if s.outerKeys.length < flowLimit then
    some { s.push t with key := none, outerKeys := s.key :: s.outerKeys, keyAllowed := true }
  else none

/-- After a bracket or brace that closes. -/
def closeFlow? (t : Token) : Option Scan := do
  let s ← s.forgetKey?
  let s := { s.push t with keyAllowed := false }
  match s.outerKeys with
  | [] => some s
  | key :: outerKeys => some { s with key, outerKeys }

/-- After a comma. -/
def flowEntry? : Option Scan := do
  let s ← s.forgetKey?
  return { s.push .flowEntry with keyAllowed := true }

/-- After a hyphen. -/
def blockEntry? (a : Spot) : Option Scan :=
  if s.inFlow || !s.keyAllowed then none
  else do
    let s ← (s.openBlock a.column s.tokens.length .blockSequence).forgetKey?
    return { s.push .blockEntry with keyAllowed := true }

/-- After a question mark. -/
def key? (a : Spot) : Option Scan :=
  if !s.inFlow && !s.keyAllowed then none
  else do
    let s ← (s.openBlock a.column s.tokens.length .blockMapping).forgetKey?
    return { s.push .key with keyAllowed := !s.inFlow }

/-- After a colon. -/
def value? (a : Spot) : Option Scan :=
  match s.key with
  | some k =>
    let s := { s with tokens := s.tokens.insertIdx k.before .key }
    let s := s.openBlock k.column k.before .blockMapping
    some { s.push .value with key := none, keyAllowed := false }
  | none =>
    if !s.inFlow && !s.keyAllowed then none
    else
      let s := s.openBlock a.column s.tokens.length .blockMapping
      some { s.push .value with keyAllowed := !s.inFlow }

/-- After something that separates documents. -/
def separate? (t : Token) : Option Scan := do
  let s ← (s.close (-1)).forgetKey?
  return { s.push t with keyAllowed := false }

/-- After something that may turn out to be a key and that no key follows at once. -/
def content? (a : Spot) (t : Token) : Option Scan := do
  let s ← s.noteKey? a
  return { s.push t with keyAllowed := false }

end Scan

/-! ### Names and tags -/

/-- A name, and what follows it. -/
def nameAhead (s : List Spot) : List Char × List Spot :=
  let name := s.takeWhile fun a => isNameChar a.char
  (charsOf name, s.drop name.length)

/-- The name of an anchor or alias, and what follows it. -/
def anchorName? (s : List Spot) : Option (String × List Spot) :=
  let (name, r) := nameAhead s
  let next := charAt 0 r
  if name ≠ [] && (separates next || next ∈ ['?', ':', ',', ']', '\x7d', '%', '@', '\x60']) then
    some (String.ofList name, r)
  else none

/-- Whether a character may stand in a tag. -/
def isTagChar (c : Char) : Bool :=
  isNameChar c || c ∈ [';', '/', '?', ':', '@', '&', '=', '+', '$', ',', '.', '!', '~', '*', '\'',
    '(', ')', '[', ']', '%']

/-- Whether each percent sign stands before two hexadecimal digits. -/
def escapesWell : List Char → Bool
  | '%' :: a :: b :: r => isHexDigit a && isHexDigit b && escapesWell r
  | c :: r => c ≠ '%' && escapesWell r
  | [] => true

/-- The characters of a tag ahead, and what follows them. -/
def tagText? (s : List Spot) : Option (List Char × List Spot) :=
  let text := s.takeWhile fun a => isTagChar a.char
  if escapesWell (charsOf text) then some (charsOf text, s.drop text.length) else none

/-- The handle of a tag ahead, with its exclamation marks, and what follows it. -/
def tagHandle (s : List Spot) : List Char × List Spot :=
  let (name, r) := nameAhead (s.drop 1)
  if charAt 0 r = '!' then ('!' :: name ++ ['!'], r.drop 1) else ('!' :: name, r)

/-- The handle and the suffix of a tag ahead, and what follows it. -/
def tagParts? (s : List Spot) : Option (List Char × List Char × List Spot) :=
  if charAt 1 s = '<' then do
    let (suffix, r) ← tagText? (s.drop 2)
    if suffix ≠ [] ∧ charAt 0 r = '>' then some ([], suffix, r.drop 1) else none
  else do
    let (handle, r) := tagHandle s
    let (text, r) ← tagText? r
    if 2 ≤ handle.length ∧ handle.getLast? = some '!' then
      if text = [] then none else some (handle, text, r)
    else
      match handle.drop 1 ++ text with
      | [] => some ([], ['!'], r)
      | suffix => some (['!'], suffix, r)

/-- A tag ahead, and what follows it. -/
def tag? (s : List Spot) : Option (Token × List Spot) := do
  let (handle, suffix, r) ← tagParts? s
  if separates (charAt 0 r) then
    some (.tag (String.ofList handle) (String.ofList suffix), r)
  else none

/-! ### Directives -/

/-- What follows the number ahead, which has nine digits at most. -/
def versionNumber? (s : List Spot) : Option (List Spot) :=
  let digits := s.takeWhile fun a => a.char.isDigit
  if digits = [] ∨ 9 < digits.length then none else some (s.drop digits.length)

/-- What follows the two numbers of a version ahead. -/
def version? (s : List Spot) : Option (List Spot) := do
  let r ← versionNumber? (skipSpaces s)
  if charAt 0 r = '.' then versionNumber? (r.drop 1) else none

/-- What follows a tag that is defined ahead. -/
def tagDefinition? (s : List Spot) : Option (List Spot) := do
  let s := skipSpaces s
  let (handle, r) := tagHandle s
  let (text, r) ← tagText? (skipSpaces r)
  if charAt 0 s = '!' ∧ (handle = ['!'] ∨ handle.getLast? = some '!') ∧ text ≠ []
      ∧ separates (charAt 0 r) then some r
  else none

/-- What follows the directive ahead, after its percent sign. One that is not known is passed
over. -/
def directive? (s : List Spot) : Option (List Spot) := do
  let (name, r) := nameAhead s
  if name = [] ∨ !separates (charAt 0 r) then none
  else
    match String.ofList name with
    | "YAML" => lineEnd? (← version? r)
    | "TAG" => lineEnd? (← tagDefinition? r)
    | _ => lineEnd? (skipLine r)

/-! ### Cutting -/

/-- What follows the blanks, line breaks and comments ahead, and whether a key may begin there.
Where one may begin, tabs are not passed over. -/
def skipGap (inFlow : Bool) (inComment keyAllowed : Bool) : List Spot → Bool × List Spot
  | [] => (keyAllowed, [])
  | a :: r =>
    if isBreak a.char then skipGap inFlow false (keyAllowed || !inFlow) r
    else if isEnd a.char then (keyAllowed, a :: r)
    else if inComment then skipGap inFlow true keyAllowed r
    else if a.char = '#' then skipGap inFlow true keyAllowed r
    else if a.char = ' ' ∨ (a.char = '\t' ∧ (inFlow ∨ !keyAllowed)) then
      skipGap inFlow false keyAllowed r
    else (keyAllowed, a :: r)

/-- Whether the colon ahead comes before a value. -/
def isValueMark (scan : Scan) (a : Spot) (next : Char) : Bool :=
  separates next || (scan.inFlow && (isFlowMark next || a.index == scan.afterQuote))

/-- After the scalar or the mark ahead. -/
def Scan.next? (scan : Scan) (a : Spot) (r : List Spot) : Option (Scan × List Spot) :=
  let s := a :: r
  let next := charAt 0 r
  let plain? : Option (Scan × List Spot) := do
    let (text, broken, rest) ← Yaml.plain? scan.inFlow (scan.indent + 1) s
    let done ← scan.content? a (.scalar true (String.ofList text))
    return ({ done with keyAllowed := broken }, rest)
  let quoted? (single : Bool) : Option (Scan × List Spot) := do
    let (text, rest) ← Yaml.quoted? single r
    let done ← scan.content? a (.scalar false (String.ofList text))
    return ({ done with afterQuote := (rest.head?.map (·.index)).getD 0 }, rest)
  let block? (literal : Bool) : Option (Scan × List Spot) := do
    let (text, rest) ← Yaml.block? literal scan.indent r
    let done ← scan.content? a (.scalar false (String.ofList text))
    return ({ done with keyAllowed := true }, rest)
  match a.char with
  | '[' => (scan.openFlow? a .flowSequence).map (·, r)
  | '\x7b' => (scan.openFlow? a .flowMapping).map (·, r)
  | ']' => (scan.closeFlow? .flowSequenceEnd).map (·, r)
  | '\x7d' => (scan.closeFlow? .flowMappingEnd).map (·, r)
  | ',' => scan.flowEntry?.map (·, r)
  | '-' => if separates next then (scan.blockEntry? a).map (·, r) else plain?
  | '?' => if separates next then (scan.key? a).map (·, r) else plain?
  | ':' => if isValueMark scan a next then (scan.value? a).map (·, r) else plain?
  | '*' => do
    let (name, rest) ← anchorName? r
    return (← scan.content? a (.alias name), rest)
  | '&' => do
    let (name, rest) ← anchorName? r
    return (← scan.content? a (.anchor name), rest)
  | '!' => do
    let (tag, rest) ← tag? s
    return (← scan.content? a tag, rest)
  | '|' => if scan.inFlow then plain? else block? true
  | '>' => if scan.inFlow then plain? else block? false
  | '\'' => quoted? true
  | '"' => quoted? false
  | '%' => none
  | '@' => none
  | '\x60' => none
  | _ => plain?

/-- The tokens of a document, in at most `n` steps. -/
def tokensIn? : Nat → Scan → List Spot → Option (List Token)
  | 0, _, _ => none
  | n + 1, scan, s =>
    let (keyAllowed, s) := skipGap scan.inFlow false scan.keyAllowed s
    match s with
    | [] => none
    | a :: r => do
      let scan ← Scan.refresh? { scan with keyAllowed } a
      let scan := scan.close a.column
      if isEnd a.char then
        let scan ← (scan.close (-1)).forgetKey?
        return scan.tokens
      else if a.column = 0 ∧ a.char = '%' then
        let scan ← scan.separate? .directive
        tokensIn? n scan (← directive? r)
      else if separatesDocuments (a :: r) then
        let scan ← scan.separate? (if a.char = '-' then .documentStart else .documentEnd)
        tokensIn? n scan (r.drop 2)
      else
        let (scan, rest) ← scan.next? a r
        tokensIn? n scan rest

/-- The tokens of a text. -/
def tokens? (s : String) : Option (List Token) :=
  let placed := spots s.toList
  tokensIn? (placed.length + 1) {} placed

end CommandTimelines.Yaml
