import CommandTimelines.Script.Directive

/-!
# Settings

Where timelines lie, which marks their command lines may start with, what is run after every
run, and how many events a subscriber can be behind.
-/

namespace CommandTimelines

/-- The settings of a server's timelines. -/
structure Settings where
  /-- The folder that timelines are read from. -/
  root : String := "timelines"
  specifiers : Script.Specifiers := {}
  /-- The command lines run after every run, finished or stopped. -/
  cleanUp : List String := []
  /-- How many events are kept for a subscriber. -/
  eventCapacity : Nat := 64
deriving DecidableEq, Repr

/-- The room there is for the events that some settings ask to keep. -/
inductive Room where
  | enough
  /-- More than there is. -/
  | short
  /-- More than could ever be. -/
  | absurd
deriving DecidableEq, Repr

/-- The most events that there is room for. -/
def Room.events : Nat := 1073741824

/-- The most events for which room can be asked for. -/
def Room.askable : Nat := 72057594037927936

/-- The room for the events that some settings ask to keep. -/
def Settings.room (settings : Settings) : Room :=
  if settings.eventCapacity ≤ Room.events then .enough
  else if settings.eventCapacity ≤ Room.askable then .short
  else .absurd

end CommandTimelines
