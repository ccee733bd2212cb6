/-!
# Faults of settings

Why settings cannot be loaded. A fault tells what is wrong with a source, and the first one that
is met counts.
-/

namespace CommandTimelines.Settings

/-- Why settings cannot be loaded. -/
inductive Fault where
  /-- The file is no document of its format, or holds something else than a table. -/
  | document
  /-- A table in the file has a key that no value can be found under. -/
  | key
  /-- A source gives a value for a position that no list has. -/
  | place
  /-- A source gives a value for a position in a longer list than there is room for. -/
  | room
  /-- A value that cannot be taken. -/
  | value
deriving DecidableEq, Repr

/-- What is there, or a fault. -/
def orFault {α : Type} (fault : Fault) : Option α → Except Fault α
  | none => .error fault
  | some a => .ok a

end CommandTimelines.Settings
