import CommandTimelines.Text.Numeral

/-!
# Placeholders

A line may refer to the arguments of a run by position: `{0}` is the first argument, `{1}`
the second, and so on. A doubled brace stands for a single one, and any other use of a brace
is a fault. The text that is put in is not looked at again.

`bindFrom` reads a line from the left in two modes: outside of a placeholder, and inside one
that was opened at a known column. Columns are counted in UTF-8 bytes, from 1.
-/

namespace CommandTimelines.Script

open Text

/-- Why the arguments cannot be put into a line. -/
inductive BindFault where
  /-- A placeholder refers to an argument that was not given. -/
  | outOfRange (index available : Nat)
  /-- A brace at a column forms neither a placeholder nor a doubled brace. -/
  | malformed (column : Nat)
deriving DecidableEq, Repr

/-- The wording of a fault. -/
def BindFault.message : BindFault → String
  | .outOfRange index available =>
    "placeholder \x7b" ++ toString index ++ "\x7d is out of range ("
      ++ toString available ++ " parameter(s) given)"
  | .malformed column => "malformed placeholder at column " ++ toString column

/-- The argument that the digits of a placeholder opened at `column` refer to. -/
def argument (params : List String) (column : Nat) (digits : List Char) :
    Except BindFault (List Char) :=
  match unsignedWord? digits with
  | none => .error (.malformed column)
  | some index =>
    match params[index]? with
    | none => .error (.outOfRange index params.length)
    | some value => .ok value.toList

/-- Where a reader of placeholders stands. -/
inductive BindMode where
  | outside
  /-- Inside a placeholder whose brace stands at `column`, after some of its digits. -/
  | inside (column : Nat) (digits : List Char)

/-- The rest of a line, from `column` on, with the arguments put in. -/
def bindFrom (params : List String) (column : Nat) : BindMode → List Char →
    Except BindFault (List Char)
  | .outside, [] => .ok []
  | .outside, '{' :: '{' :: r => do
    let rest ← bindFrom params (column + 2) .outside r
    return '{' :: rest
  | .outside, '}' :: '}' :: r => do
    let rest ← bindFrom params (column + 2) .outside r
    return '}' :: rest
  | .outside, c :: r =>
    if c = '{' then bindFrom params (column + 1) (.inside column []) r
    else if c = '}' then .error (.malformed column)
    else do
      let rest ← bindFrom params (column + c.utf8Size) .outside r
      return c :: rest
  | .inside start _, [] => .error (.malformed start)
  | .inside start digits, c :: r =>
    if c = '}' then do
      let value ← argument params start digits
      let rest ← bindFrom params (column + 1) .outside r
      return value ++ rest
    else bindFrom params (column + c.utf8Size) (.inside start (digits ++ [c])) r

/-- A line with the arguments put into its placeholders. -/
def bindChars (params : List String) (line : List Char) : Except BindFault (List Char) :=
  bindFrom params 1 .outside line

/-- A line with the arguments put into its placeholders. -/
def bind (params : List String) (line : String) : Except BindFault String :=
  (bindChars params line.toList).map String.ofList

end CommandTimelines.Script
