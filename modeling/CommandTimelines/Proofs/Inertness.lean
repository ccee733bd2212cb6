import CommandTimelines.Proofs.Actions
import CommandTimelines.Proofs.Mirroring
import CommandTimelines.Proofs.Starting

/-!
# Servers that keep to themselves

A handler may reach back into the server: it may stop a timeline, or ask for a response whose
handler then may. A server in which nothing of the kind can happen is *inert* (`Server.Inert`): no
response is awaited, and no command does anything to the server, be it one that is registered or
one that an action of a run has found when its script was compiled. In such a server a run does
nothing but its own work.
-/

namespace CommandTimelines

open Host Script

/-- Whether an action does nothing to the server but what a run does by itself. -/
def Script.Action.IsInert : Action → Prop
  | .invoke _ _ command _ _ _ => command.behaviour.isInert = true
  | _ => True

/-- A server in which no response is awaited, and in which no command does anything to the server,
be it registered or called by an action of a run. -/
structure Server.Inert (s : Server) : Prop where
  awaiting : s.awaiting = []
  commands : ∀ c ∈ s.commands, c.behaviour.isInert
  scripts : ∀ script ∈ s.scripts, ∀ action ∈ script.2.1 ++ script.2.2, action.IsInert

namespace Server.Inert

variable {s : Server} (h : s.Inert)

include h

theorem bodyOf {o : Opening} {body : List Action} (hbody : s.bodyOf o = .ok body) :
  ∀ action ∈ body, action.IsInert
  := all_bodyOf (fun _ _ => trivial) (fun _ _ _ _ => trivial)
    (fun c hc _ _ _ _ _ => h.commands c hc) hbody

theorem cleanUpOf {o : Opening} {cleanUp : List Action} (hcleanUp : s.cleanUpOf o = .ok cleanUp) :
  ∀ action ∈ cleanUp, action.IsInert
  := all_cleanUpOf (fun _ _ => trivial) (fun _ _ _ _ => trivial)
    (fun c hc _ _ _ _ _ => h.commands c hc) hcleanUp

/-- The action that a run has at hand does nothing to the server. -/
theorem of_action? (hs : s.Reachable) {id : RunId} {run : Run} (hrun : s.runs[id]? = some run)
    {action : Action} (haction : run.activity.action? = some action) :
  action.IsInert
  := by
  apply h.scripts run.script (List.mem_map_of_mem (List.mem_of_getElem? hrun))
  exact hs.mem_of_action? hrun haction

theorem updateRun {id : RunId} {f : Run → Run} (hf : ∀ run, (f run).script = run.script) :
  (s.updateRun id f).Inert
  where
  __ := h
  scripts := by
    rw [steady_scripts.updateRun s id hf]
    exact h.scripts

theorem addRun {run : Run} (hrun : ∀ action ∈ run.body ++ run.cleanUp, action.IsInert) :
  ({ s with runs := s.runs ++ [run] } : Server).Inert
  where
  __ := h
  scripts := by
    intro script hscript
    rw [Server.scripts, List.map_append] at hscript
    rcases List.mem_append.mp hscript with hscript | hscript
    · exact h.scripts script hscript
    · rw [List.mem_singleton.mp hscript]
      exact hrun

end Server.Inert

end CommandTimelines
