import CommandTimelines.Text.Lowercase

/-!
# Actors

Whoever issues a command: the server console, which holds every permission, or a player
with a list of permission nodes. Nodes are compared in lower case.
-/

namespace CommandTimelines.Host

open Text

/-- Whoever issues a command. -/
inductive Actor where
  | console
  /-- A player and the permission nodes given to them. -/
  | player (name : String) (nodes : List String)
deriving DecidableEq, Repr

/-- The name an actor goes by. -/
def Actor.name : Actor → String
  | .console => "Server"
  | .player name _ => name

/-- Whether an actor is the console. -/
def Actor.isConsole : Actor → Bool
  | .console => true
  | .player _ _ => false

/-- Whether an actor holds a permission node. -/
def Actor.holds : Actor → String → Bool
  | .console, _ => true
  | .player _ nodes, node => (nodes.map lower).contains (lower node)

end CommandTimelines.Host
