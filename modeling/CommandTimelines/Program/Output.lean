import CommandTimelines.Server.Basic
import CommandTimelines.Settings.Load
import CommandTimelines.Text.Quoted

/-!
# Output

What a program shows: lines that it prints and notes of its log, each at a time. In a note, the
characters that a terminal takes for orders are spelled out. `Exit` is what is left of a program
that has ended.
-/

namespace CommandTimelines.Program

open Text

/-- Something that a program shows. -/
inductive Output where
  | printed (text : String)
  | logged (level : Level) (message : String)
deriving DecidableEq, Repr

/-- The characters of ASCII that a terminal takes for orders. -/
def terminalOrders : List Char := ['\x07', '\x08', '\x0c', '\x1b', '\x7f']

/-- What stands for a character in a note of the log. -/
def notedChar (c : Char) : List Char :=
  if c ∈ terminalOrders then
    ['\\', 'x', Nat.digitChar (c.toNat / 16), Nat.digitChar (c.toNat % 16)]
  else if 0x80 ≤ c.toNat && c.toNat ≤ 0x9F then spelledOut c
  else [c]

/-- Something as it appears on the screen. -/
def Output.text : Output → String
  | .printed text => text
  | .logged level message =>
    level.name ++ " " ++ String.ofList (message.toList.flatMap notedChar)

/-- Something that a program shows at a time. -/
structure Shown where
  time : Nat
  output : Output
deriving DecidableEq, Repr

/-- Printed lines at a time. -/
def printed (time : Nat) (texts : List String) : List Shown :=
  texts.map fun text => ⟨time, .printed text⟩

/-- Whether something is a note of the log. -/
def Shown.isLogged (shown : Shown) : Bool :=
  match shown.output with
  | .printed _ => false
  | .logged _ _ => true

/-- A program that has ended. -/
structure Exit where
  /-- The code it leaves; none if it was killed. -/
  code : Option Nat
  output : List Shown
  /-- The lines on the error stream. -/
  errors : List String

/-- How a program ends that fails, and what caused it to. -/
def Exit.failed (output : List Shown) (message : String) (cause : Option String) : Exit :=
  { code := some 1
    output
    errors := ("Error: " ++ message) :: match cause with
      | none => []
      | some cause => ["", "Caused by:", "    " ++ cause] }

/-- A program that breaks off. -/
def Exit.brokenOff (output : List Shown) : Exit := { code := some 101, output, errors := [] }

/-- A program that comes to its proper end. -/
def Exit.done (output : List Shown) : Exit := { code := some 0, output, errors := [] }

/-- The end of a program that has shown something before. -/
def Exit.after (shown : List Shown) (exit : Exit) : Exit :=
  { exit with output := shown ++ exit.output }

/-- A program that is killed. -/
def Exit.killed (output : List Shown) : Exit := { code := none, output, errors := [] }

/-- The end of a program that first needs room for the events it keeps. It is killed if there is
not enough, and breaks off if there never could be. -/
def Exit.ifRoom (room : Room) (exit : Exit) : Exit :=
  match room with
  | .enough => exit
  | .short => .killed []
  | .absurd => .brokenOff []

/-- How a program ends whose settings cannot be loaded. It breaks off at a key that no value can
be found under, and where a source gives a value for a position that no list has; if there is no
room for a list, it is killed. -/
def Exit.withoutSettings (output : List Shown) (fault : Settings.Fault) : Exit :=
  match fault with
  | .key | .place => Exit.brokenOff output
  | .room => Exit.killed output
  | .document | .value => Exit.failed output "the settings cannot be loaded" none

end CommandTimelines.Program
