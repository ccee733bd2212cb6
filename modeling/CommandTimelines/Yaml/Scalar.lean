import CommandTimelines.Text.Hexadecimal
import CommandTimelines.Yaml.Spot

/-!
# Scalars of YAML

A scalar is written plainly, in quotes of either kind, or as a block of lines of its own. Where it
runs over several lines these are folded: a single line break becomes a space, and of several one
is dropped. In a block that is taken as it stands they are kept.
-/

namespace CommandTimelines.Yaml

open Text

/-! ### Folding -/

/-- A text that is being folded. -/
structure Folding where
  /-- What is certain of it, the last character first. -/
  text : List Char := []
  /-- The blanks after that, the last one first. -/
  blanks : List Char := []
  /-- Whether a line break stands among them. -/
  broken : Bool := false
  /-- Whether that line break counts. -/
  counts : Bool := false
  /-- The line breaks after it. -/
  breaks : Nat := 0

namespace Folding

/-- After a space or a tab. At the start of a line it does not count. -/
def space (f : Folding) (c : Char) : Folding :=
  if f.broken then f else { f with blanks := c :: f.blanks }

/-- After a line break. -/
def lineBreak (f : Folding) : Folding :=
  if f.broken then { f with breaks := f.breaks + 1 }
  else { f with blanks := [], broken := true, counts := true }

/-- What the blanks become when the text goes on. -/
def join (f : Folding) : Folding :=
  let between :=
    if !f.broken then f.blanks
    else if f.counts && f.breaks == 0 then [' ']
    else List.replicate f.breaks '\n'
  { text := between ++ f.text }

/-- After a character that counts. -/
def char (f : Folding) (c : Char) : Folding := { f.join with text := c :: f.join.text }

/-- The text. -/
def result (f : Folding) : List Char := f.text.reverse

end Folding

/-! ### Plain scalars -/

/-- Whether a plain scalar ends at what is ahead, in the middle of a word. -/
def endsWord (inFlow : Bool) (s : List Spot) : Bool :=
  let c := charAt 0 s
  let next := charAt 1 s
  isEnd c || (c == ':' && (separates next || (inFlow && isFlowMark next)))
    || (inFlow && isFlowMark c)

/-- Whether a plain scalar ends at a word ahead. -/
def endsPlain (inFlow : Bool) (indent : Int) (s : List Spot) : Bool :=
  (!inFlow && decide ((columnOf s : Int) < indent)) || separatesDocuments s || charAt 0 s == '#'

/-- The rest of a plain scalar, of which its lines must be indented. `between` tells whether
blanks have been read last. -/
def plainIn? (inFlow : Bool) (indent : Int) (between : Bool) (f : Folding) :
    List Spot → Option (Folding × List Spot)
  | [] => some (f, [])
  | a :: r =>
    let c := a.char
    if isSpace c then
      if f.broken && decide ((a.column : Int) < indent) && c == '\t' then none
      else plainIn? inFlow indent true (f.space c) r
    else if c = '\r' ∧ charAt 0 r = '\n' then plainIn? inFlow indent between f r
    else if isBreak c then plainIn? inFlow indent true f.lineBreak r
    else if (between && endsPlain inFlow indent (a :: r)) || endsWord inFlow (a :: r) then
      some (f, a :: r)
    else plainIn? inFlow indent false (f.char c) r

/-- A plain scalar, whether it ends after a line break, and what follows it. -/
def plain? (inFlow : Bool) (indent : Int) (s : List Spot) :
    Option (List Char × Bool × List Spot) :=
  (plainIn? inFlow indent false {} s).map fun (f, r) => (f.result, f.broken, r)

/-! ### Scalars in quotes -/

/-- The character that a character after a backslash stands for. -/
def escaped? : Char → Option Char
  | '0' => some '\x00'
  | 'a' => some '\x07'
  | 'b' => some '\x08'
  | 't' => some '\t'
  | '\t' => some '\t'
  | 'n' => some '\n'
  | 'v' => some '\x0b'
  | 'f' => some '\x0c'
  | 'r' => some '\r'
  | 'e' => some '\x1b'
  | ' ' => some ' '
  | '"' => some '"'
  | '/' => some '/'
  | '\\' => some '\\'
  | 'N' => some '\x85'
  | '_' => some '\u00a0'
  | 'L' => some '\u2028'
  | 'P' => some '\u2029'
  | _ => none

/-- How many hexadecimal digits follow a letter after a backslash. -/
def digitsAfter : Char → Nat
  | 'x' => 2
  | 'u' => 4
  | 'U' => 8
  | _ => 0

/-- The character that what stands after a backslash stands for, and what follows it. -/
def escape? (s : List Spot) : Option (Char × List Spot) :=
  let letter := charAt 0 s
  let count := digitsAfter letter
  let r := s.drop 1
  if count = 0 then (escaped? letter).map (·, r)
  else
    let digits := charsOf (r.take count)
    if digits.length = count then (scalar? digits).map (·, r.drop count) else none

/-- The rest of a scalar in quotes, in at most `n` steps. `between` tells whether a word would
begin here. -/
def quotedIn? (single : Bool) : Nat → Bool → Folding → List Spot → Option (Folding × List Spot)
  | 0, _, _, _ => none
  | n + 1, between, f, s =>
    let c := charAt 0 s
    let next := charAt 1 s
    let r := s.drop 1
    if isSpace c then quotedIn? single n true (f.space c) r
    else if isBreak c then quotedIn? single n true f.lineBreak (skipBreak s)
    else if isEnd c || (between && separatesDocuments s) then none
    else if single then
      if c ≠ '\'' then quotedIn? single n false (f.char c) r
      else if next = '\'' then quotedIn? single n false (f.char c) (s.drop 2)
      else some (f.join, r)
    else if c = '"' then some (f.join, r)
    else if c ≠ '\\' then quotedIn? single n false (f.char c) r
    else if isBreak next then
      quotedIn? single n true { f.join with broken := true } (skipBreak r)
    else do
      let (x, r) ← escape? r
      quotedIn? single n false (f.char x) r

/-- A scalar in quotes, after its opening quote. -/
def quoted? (single : Bool) (s : List Spot) : Option (List Char × List Spot) :=
  (quotedIn? single (s.length + 1) true {} s).map fun (f, r) => (f.result, r)

/-! ### Blocks -/

/-- What becomes of the line breaks at the end of a block. -/
inductive Chomping where
  /-- All go. -/
  | strip
  /-- The first one stays. -/
  | clip
  /-- All stay. -/
  | keep
deriving DecidableEq, Repr

/-- The chomping that a sign asks for. -/
def Chomping.ofSign? : Char → Option Chomping
  | '+' => some .keep
  | '-' => some .strip
  | _ => none

/-- The indentation that a digit asks for; none if it is zero. -/
def indentation? (c : Char) : Option Nat :=
  if c = '0' then none else some (c.toNat - '0'.toNat)

/-- The sign and the digit after the mark of a block, in either order, and what follows them. -/
def blockHead? (s : List Spot) : Option (Chomping × Option Nat × List Spot) :=
  let first := charAt 0 s
  let second := charAt 1 s
  match Chomping.ofSign? first with
  | some chomping =>
    if second.isDigit then (indentation? second).map fun n => (chomping, some n, s.drop 2)
    else some (chomping, none, s.drop 1)
  | none =>
    if first.isDigit then
      (indentation? first).map fun n =>
        match Chomping.ofSign? second with
        | some chomping => (chomping, some n, s.drop 2)
        | none => (.clip, some n, s.drop 1)
    else some (.clip, none, s)

/-- The empty lines ahead: the greatest column reached in them, their number, and what follows
them. Without an indentation all spaces count as one. A tab must not stand in it. -/
def emptyLinesIn? (indent : Option Nat) :
    Nat → Nat → Nat → List Spot → Option (Nat × Nat × List Spot)
  | 0, _, _, _ => none
  | n + 1, reached, count, s =>
    let inside := fun a : Spot => indent.all (a.column < ·)
    let r := s.dropWhile fun a => inside a && a.char == ' '
    let reached := max reached (columnOf r)
    if r.head?.any (fun a => inside a && a.char == '\t') then none
    else if isBreak (charAt 0 r) then emptyLinesIn? indent n reached (count + 1) (skipBreak r)
    else some (reached, count, r)

/-- The empty lines ahead. -/
def emptyLines? (indent : Option Nat) (s : List Spot) : Option (Nat × Nat × List Spot) :=
  emptyLinesIn? indent (s.length + 1) 0 0 s

/-- A block that is being read. -/
structure Block where
  /-- What is certain of it, the last character first. -/
  text : List Char := []
  /-- Whether a line has been read that a line break ends. -/
  broken : Bool := false
  /-- Whether that line started with a blank. -/
  afterBlank : Bool := false
  /-- The empty lines after it. -/
  breaks : Nat := 0

/-- A block after the start of one more line. Unless it is taken as it stands, lines that do not
start with a blank are folded. -/
def Block.join (literal : Bool) (b : Block) (startsBlank : Bool) : Block :=
  let folds := !literal && b.broken && !b.afterBlank && !startsBlank
  let lineBreak :=
    if !b.broken then []
    else if !folds then ['\n']
    else if b.breaks = 0 then [' ']
    else []
  { text := List.replicate b.breaks '\n' ++ lineBreak ++ b.text, afterBlank := startsBlank }

/-- The rest of a block, in at most `n` lines. -/
def linesIn? (literal : Bool) (indent : Nat) : Nat → Block → List Spot → Option (Block × List Spot)
  | 0, _, _ => none
  | n + 1, b, s =>
    if columnOf s ≠ indent ∨ isEnd (charAt 0 s) then some (b, s)
    else
      let line := s.takeWhile fun a => !endsLine a.char
      let r := s.drop line.length
      let joined := b.join literal (isSpace (charAt 0 s))
      let b := { joined with text := (charsOf line).reverse ++ joined.text }
      if isEnd (charAt 0 r) then some (b, r)
      else do
        let (_, count, r) ← emptyLines? (some indent) (skipBreak r)
        linesIn? literal indent n { b with broken := true, breaks := count } r

/-- The text of a block. -/
def Block.result (b : Block) (chomping : Chomping) : List Char :=
  let lineBreak := if b.broken && chomping != .strip then ['\n'] else []
  let more := if chomping = .keep then List.replicate b.breaks '\n' else []
  (more ++ lineBreak ++ b.text).reverse

/-- A block, after its mark. Its lines are indented as its head says, or else as far as its first
line, but in any case more than what is around it. -/
def block? (literal : Bool) (indent : Int) (s : List Spot) : Option (List Char × List Spot) := do
  let (chomping, increment, r) ← blockHead? s
  let r ← lineEnd? r
  let asked := increment.map fun n => n + indent.toNat
  let (reached, count, r) ← emptyLines? asked r
  let own := asked.getD (max reached (max (indent + 1).toNat 1))
  let (b, r) ← linesIn? literal own (r.length + 1) { breaks := count } r
  return (b.result chomping, r)

end CommandTimelines.Yaml
