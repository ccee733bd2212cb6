import CommandTimelines.Text.Unprintable

/-!
# Quoted texts

`quote` writes a text between double quotes so that every character of it can be seen: a
quote and a backslash stand behind a backslash, the common controls have a letter, and any
other character without a visible form is spelled out in hexadecimal.
-/

namespace CommandTimelines.Text

/-- The hexadecimal digits of a number. -/
def hexadecimal (n : Nat) : List Char := Nat.toDigits 16 n

/-- A code point spelled out in hexadecimal, between braces. -/
def spelledOut (c : Char) : List Char :=
  ['\\', 'u', '{'] ++ hexadecimal c.toNat ++ ['}']

/-- Whether a character is shown as itself. -/
def isPrintable (c : Char) : Bool :=
  if c.toNat < 0x80 then 0x20 ≤ c.toNat && c.toNat < 0x7F
  else !CodeRange.cover unprintableRanges c

/-- What stands for a character inside a quoted text. -/
def quotedChar (c : Char) : List Char :=
  match c with
  | '"' => ['\\', '"']
  | '\\' => ['\\', '\\']
  | '\t' => ['\\', 't']
  | '\r' => ['\\', 'r']
  | '\n' => ['\\', 'n']
  | '\x00' => ['\\', '0']
  | c => if isPrintable c then [c] else spelledOut c

/-- A text between double quotes, with every character of it visible. -/
def quote (s : String) : String :=
  String.ofList ('"' :: s.toList.flatMap quotedChar ++ ['"'])

/-- Texts, quoted and listed between square brackets. -/
def quoteList (texts : List String) : String :=
  "[" ++ ", ".intercalate (texts.map quote) ++ "]"

end CommandTimelines.Text
