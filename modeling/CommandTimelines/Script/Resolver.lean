import CommandTimelines.Host.Command
import CommandTimelines.Script.Words

/-!
# Hosts of commands

Scripts are compiled for a host, of which two things are asked: to find the commands that answer
to a name, and to cut a command line into words. The list of the registered commands is a host,
which cuts lines as `Words.split` does; another host may look up its commands in a way of its
own, and cut lines in a way of its own.
-/

namespace CommandTimelines.Script

open Host

/-- Values that can serve scripts as the host of their commands. -/
class Resolver (R : Type) where
  /-- The commands that answer to a name. -/
  find : R → String → List Command
  /-- The words of a command line. -/
  split : R → List Char → List (List Char) := fun _ => Words.split

instance : Resolver (List Command) where
  find := Command.allNamed

namespace Resolver

@[simp]
theorem find_list (commands : List Command) (name : String) :
  find commands name = Command.allNamed commands name
  := rfl

@[simp]
theorem split_list (commands : List Command) :
  split commands = Words.split
  := rfl

end Resolver

end CommandTimelines.Script
