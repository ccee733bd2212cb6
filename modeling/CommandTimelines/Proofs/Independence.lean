import CommandTimelines.Proofs.Edits
import CommandTimelines.Proofs.Succession

/-!
# Timelines do not interfere

All timelines of a server share its clock, its host and its journal, and time passes for all of
them at once. Nevertheless a script can do without every step that asks something of one timeline:
nothing changes for the others (`Session.separates`).

The script with these steps and the one without them are carried out side by side. The servers are
compared by `Server.Omits`, and whatever is read off the facts of another timeline is the same in
both (`Server.Omits.heard`). The same is done for anything that happens, in any order: what happens
for the timeline that is left out is dropped (`Cut.Leaves`).
-/

namespace CommandTimelines

open Host Script Operator

/-! ### What is heard of a timeline -/

/-- What the entries of a journal tell about something, and when, earliest first. -/
def Server.heard {β : Type} (s : Server) (read : Fact → Option β) : List (Nat × β) :=
  s.history.filterMap fun entry => (read entry.fact).map (entry.time, ·)

/-- The call that a fact tells of, if a run of a timeline made it. -/
def Server.callBy? (s : Server) (key : String) : Fact → Option Call
  | .called (some work) call => if s.keyOf? work.run = some key then some call else none
  | _ => none

/-- The event that a fact tells of, if it is one of a timeline. -/
def Fact.publishedBy? (key : String) : Fact → Option Event
  | .published _ event => if event.name = key then some event else none
  | _ => none

/-- The reply that a fact tells of, if it answers a step and is no list of what is running. -/
def Fact.replyTo? (n : Nat) : Fact → Option Reply
  | .answered ticket reply => if ticket.step = some n && !reply.isListing then some reply else none
  | _ => none

/-- The calls that the runs of a timeline have made, and their times. -/
def Server.callsBy (s : Server) (key : String) : List (Nat × Call) := s.heard (s.callBy? key)

/-- The events of a timeline, and their times, whether or not a subscriber keeps up with them. -/
def Server.publishedBy (s : Server) (key : String) : List (Nat × Event) :=
  s.heard (Fact.publishedBy? key)

/-- The replies to a step, and their times, lists of what is running apart. -/
def Server.repliesTo (s : Server) (n : Nat) : List (Nat × Reply) := s.heard (Fact.replyTo? n)

namespace Cut

variable {cut : Cut} {β : Type} {read : Fact → Option β}

theorem bind_called (hread : ∀ caller call, read (.called caller call) = none)
    (caller : Option Work) (call : Call) :
  (cut.fact? (.called caller call)).bind read = none
  := by
  cases caller with
  | none => exact hread none call
  | some work =>
    rw [fact?]
    split
    · exact hread _ call
    · rfl

theorem bind_published (hread : ∀ id event, read (.published id event) = none) (id : RunId)
    (event : Event) :
  (cut.fact? (.published id event)).bind read = none
  := by
  rw [fact?]
  split
  · rfl
  · exact hread _ event

theorem bind_answered (hread : ∀ ticket reply, read (.answered ticket reply) = none)
    (ticket : Ticket) (reply : Reply) :
  (cut.fact? (.answered ticket reply)).bind read = none
  := by
  rw [fact?]
  split
  · exact hread _ reply
  · rfl

end Cut

namespace Server.Omits

variable {cut : Cut} {s t : Server} (h : Omits cut s t)

include h

/-- What is heard is the same if it is read off what is left of each fact. -/
theorem heard {β : Type} {read read' : Fact → Option β}
    (hshown : ∀ fact : Fact, fact.isShown = false → read' fact = none)
    (hread : ∀ fact, (cut.fact? fact).bind read' = read fact) :
  t.heard read' = s.heard read
  := by
  have hjournal : t.journal.filterMap (fun entry => (read' entry.fact).map (entry.time, ·))
      = (t.journal.filter (·.fact.isShown)).filterMap
        fun entry => (read' entry.fact).map (entry.time, ·) := by
    rw [List.filterMap_filter]
    apply List.filterMap_congr
    intro entry _
    cases hshows : entry.fact.isShown with
    | false => simp [hshown entry.fact hshows]
    | true => simp
  rw [Server.heard, history, List.filterMap_reverse, hjournal, h.journal, List.filterMap_filterMap,
    Server.heard, history, List.filterMap_reverse]
  congr 2
  funext entry
  rw [← hread, Cut.entry?, Option.bind_map, Option.map_bind]
  rfl

theorem keyOf? {id : RunId} (hid : cut.staysRun id) :
  t.keyOf? (cut.run id) = s.keyOf? id
  := by
  rw [Server.keyOf?, h.getElem?_runs hid, Server.keyOf?]

theorem callsBy {key : String} (hkey : key ≠ cut.key) :
  t.callsBy key = s.callsBy key
  := by
  apply h.heard
  · intro fact hshown
    cases fact <;> first | rfl | cases hshown
  · intro fact
    cases fact with
    | called caller call =>
      cases caller with
      | none => rfl
      | some work =>
        cases hid : cut.staysRun work.run with
        | true => simp [Cut.fact?, hid, callBy?, Cut.work, h.keyOf? hid]
        | false =>
          have hother : s.keyOf? work.run ≠ some key := by
            intro hrunKey
            have hstays := h.stays _ _ hrunKey
            rw [hid] at hstays
            exact hkey (by simpa using hstays.symm)
          simp [Cut.fact?, hid, callBy?, hother]
    | published id event => exact Cut.bind_published (fun _ _ => rfl) id event
    | answered ticket reply => exact Cut.bind_answered (fun _ _ => rfl) ticket reply
    | _ => rfl

theorem publishedBy {key : String} (hkey : key ≠ cut.key) :
  t.publishedBy key = s.publishedBy key
  := by
  apply h.heard
  · intro fact hshown
    cases fact <;> first | rfl | cases hshown
  · intro fact
    cases fact with
    | called caller call => exact Cut.bind_called (fun _ _ => rfl) caller call
    | published id event =>
      by_cases hname : event.name = cut.key
      · simp [Cut.fact?, Fact.publishedBy?, hname, Ne.symm hkey]
      · simp [Cut.fact?, Fact.publishedBy?, hname]
    | answered ticket reply => exact Cut.bind_answered (fun _ _ => rfl) ticket reply
    | _ => rfl

theorem repliesTo {n : Nat} (hn : cut.staysStep n) :
  t.repliesTo (cut.step n) = s.repliesTo n
  := by
  apply h.heard
  · intro fact hshown
    cases fact with
    | answered ticket reply =>
      simp only [Fact.isShown] at hshown
      simp [Fact.replyTo?, hshown]
    | _ => rfl
  · intro fact
    cases fact with
    | called caller call => exact Cut.bind_called (fun _ _ => rfl) caller call
    | published id event => exact Cut.bind_published (fun _ _ => rfl) id event
    | answered ticket reply =>
      have hstep := Cut.step_ticket_iff hn ticket
      cases hlists : reply.isListing with
      | true => simp [Cut.fact?, Fact.replyTo?, hlists]
      | false =>
        cases hstays : cut.staysTicket ticket with
        | false =>
          have hother : ticket.step ≠ some n := by
            intro hanswers
            simp [hstays, hanswers] at hstep
          simp [Cut.fact?, Fact.replyTo?, hstays, hother]
        | true =>
          simp only [hstays, true_and] at hstep
          simp [Cut.fact?, Fact.replyTo?, hstays, hlists, hstep]
    | _ => rfl

end Server.Omits

/-! ### Steps -/

/-- The file of the timeline that a step asks something of, if it names one. -/
def Step.file? : Step → Option String
  | .start file _ => some file
  | .startTwice file _ => some file
  | .stop file => some file
  | .finished file => some file
  | .execute _ args => (Request.ofArgs args).file?
  | _ => none

/-- Whether a step starts or stops a timeline, waits for it, or is an operator's request that names
it. -/
def Step.addresses (key : String) (step : Step) : Bool :=
  step.file?.bind Path.key? == some key

/-- Whether a step only shows a timeline, among others or by itself. -/
def Step.shows (key : String) : Step → Bool
  | .running => true
  | .state file => Path.key? file == some key
  | _ => false

/-- Whether a step leaves a server inert, and is no stop of all timelines: it awaits no response, and
a command that it registers does nothing to the server. -/
def Step.isPlain : Step → Bool
  | .stopAll => false
  | .await _ => false
  | .register command => command.behaviour.isInert
  | _ => true

/-- A script without the steps that address a timeline. -/
def without (key : String) (steps : List Step) : List Step := steps.filter (!·.addresses key)

/-- Whether what happens leaves a server inert, and is no stop of all timelines. -/
def Happening.isPlain : Happening → Bool
  | .perform _ step => step.isPlain
  | .stopEach _ _ => false
  | _ => true

/-- Whether what happens is a step that addresses a timeline, or sets up a run of it. -/
def Happening.addresses (key : String) : Happening → Bool
  | .perform _ step => step.addresses key
  | .commit opening => opening.key == key
  | .commitFor _ _ opening => opening.key == key
  | _ => false

/-- The ticket that something is done for. -/
def Happening.ticket? : Happening → Option Ticket
  | .perform index _ => some ⟨index, ""⟩
  | .commitFor ticket _ _ => some ticket
  | _ => none

namespace Cut

/-- What is left of something that happens. It is the same under new numbers, and the requests that
wait have other places. -/
inductive Keeps (cut : Cut) : Happening → Happening → Prop
  | perform {n : Nat} {step : Step} (h : step.addresses cut.key = false) :
      Keeps cut (.perform n step) (.perform (cut.step n) step)
  | commit {o : Opening} (h : o.key ≠ cut.key) : Keeps cut (.commit o) (.commit o)
  | commitFor {ticket : Ticket} {file : String} {o : Opening} (h : o.key ≠ cut.key) :
      Keeps cut (.commitFor ticket file o) (.commitFor (cut.ticket ticket) file o)
  | work {id : RunId} (h : cut.staysRun id) :
      Keeps cut (.move (.work id)) (.move (.work (cut.run id)))
  | serve (i j : Nat) : Keeps cut (.move (.serve i)) (.move (.serve j))
  | pass (milliseconds : Nat) : Keeps cut (.pass milliseconds) (.pass milliseconds)

/-- What happens for the timeline that is left out. -/
inductive Drops (cut : Cut) : Happening → Prop
  | addressed {x : Happening} (h : x.addresses cut.key) : Drops cut x
  | work {id : RunId} (h : cut.staysRun id = false) : Drops cut (.move (.work id))
  | serve (i : Nat) : Drops cut (.move (.serve i))

/-- What is left of all that happens. -/
inductive Leaves (cut : Cut) : List Happening → List Happening → Prop
  | nil : Leaves cut [] []
  | keep {x y : Happening} {xs ys : List Happening} (h : cut.Keeps x y) (hrest : Leaves cut xs ys) :
      Leaves cut (x :: xs) (y :: ys)
  | drop {x : Happening} {xs ys : List Happening} (h : cut.Drops x) (hrest : Leaves cut xs ys) :
      Leaves cut (x :: xs) ys

end Cut

/-- A run or a request goes on in both servers, or it belongs to the timeline that is left out. -/
theorem Server.Omits.move {cut : Cut} {s t : Server} (h : Omits cut s t) (hs : s.Reachable)
    (move : Move) :
  (cut.Drops (.move move) ∧ Omits cut (s.step move) t) ∨
  ∃ move', cut.Keeps (.move move) (.move move') ∧ Omits cut (s.step move) (t.step move')
  := by
  cases move with
  | work id =>
    cases hid : cut.staysRun id with
    | true => exact .inr ⟨_, .work hid, h.work hs hid⟩
    | false => exact .inl ⟨.work hid, h.work_left hs hid⟩
  | serve i =>
    cases hi : s.pending[i]? with
    | none =>
      refine .inl ⟨.serve i, ?_⟩
      rw [Server.step, Server.serve, hi]
      exact h
    | some p =>
      cases hp : cut.pending? p with
      | none => exact .inl ⟨.serve i, h.serve_left hi hp⟩
      | some p' =>
        obtain ⟨before, after, rfl, hpending, -, -⟩ := Server.exists_around hi
        exact .inr ⟨_, .serve _ _, h.serve hpending hp⟩

/-! ### Sessions -/

namespace Session

/-- Sessions with the same files, the server of one of which omits a timeline of the other. -/
structure Omits (cut : Cut) (session session' : Session) : Prop where
  reachable : session.Reachable
  reachable' : session'.Reachable
  files : session'.files = session.files
  server : session.server.Omits cut session'.server

namespace Omits

variable {cut : Cut} {session session' : Session} (h : Omits cut session session')

include h

theorem view? {file : String} (hfile : Path.key? file ≠ some cut.key) :
  session'.view? file = session.view? file
  := by
  rw [Session.view?, Session.view?]
  cases hkey : Path.key? file with
  | none => rfl
  | some key =>
    have hother : key ≠ cut.key := by
      rintro rfl
      exact hfile hkey
    simp only [Option.bind_some, h.server.timeline? key hother, Option.map_map]
    cases hfound : session.server.timeline? key with
    | none => rfl
    | some r =>
      simp only [Option.map_some, Function.comp_apply, Cut.timeline, Server.stateOf]
      cases hcurrent : r.current with
      | none => rfl
      | some id =>
        have hid : cut.staysRun id := by
          have hrun : session.server.currentRun? key = some id := by
            rw [Server.currentRun?, hfound, Option.bind_some, hcurrent]
          rw [h.server.staysRun_of_current h.reachable.server.kept hrun]
          simpa using hother
        simp only [Option.map_some, h.server.runState hid, h.server.runName hid]

omit h in
/-- A run that was started has the same name in both servers. -/
theorem startResult_eq {s t : Server} (h : s.Omits cut t) {result : Except TimelineError RunId}
    (hid : ∀ id, result = .ok id → cut.staysRun id) :
  startResult t (result.map cut.run) = startResult s result
  := by
  cases result with
  | error error => rfl
  | ok id => exact congrArg Except.ok (h.runName (hid id rfl))

/-- Two starts of another timeline at once have the same results in both sessions. -/
theorem startTwice {file : String} (hfile : Path.key? file ≠ some cut.key) (args : List String)
    (hnew : cut.Divides (session.startTwice file args).1.server) :
  (session.startTwice file args).1.server.Omits cut (session'.startTwice file args).1.server ∧
  (session'.startTwice file args).2 = (session.startTwice file args).2
  := by
  have hserver := h.server
  have hs := h.reachable.server
  revert hnew
  rw [Session.startTwice, Session.startTwice, h.files]
  simp only [hserver.settings]
  split
  · intro hnew
    exact ⟨hserver, rfl⟩
  · rename_i o hread
    intro hnew
    have hkey : o.key ≠ cut.key := by
      intro hkey
      exact hfile (hkey ▸ Opening.key_of_read hread)
    have hnew' : cut.Divides (session.server.commit o).1 :=
      hnew.of_changes (Server.commit_changes _ o)
    obtain ⟨hfirst, hresult⟩ := hserver.commit hs.kept hkey hnew'
    obtain ⟨hsecond, hresult'⟩ :=
      hfirst.commit (hs.changes (Server.commit_changes _ o)).kept hkey hnew
    have hid : ∀ id, (session.server.commit o).2 = .ok id → cut.staysRun id :=
      fun _ => hnew'.staysRun_of_commit hkey
    have hid' : ∀ id, ((session.server.commit o).1.commit o).2 = .ok id → cut.staysRun id :=
      fun _ => hnew.staysRun_of_commit hkey
    simp only [hresult, hresult', startResult_eq hsecond hid, startResult_eq hsecond hid']
    exact ⟨hsecond, trivial⟩

theorem startTwice_left {file : String} (hfile : Path.key? file = some cut.key)
    (args : List String) (hnew : cut.Divides (session.startTwice file args).1.server) :
  (session.startTwice file args).1.server.Omits cut session'.server
  := by
  revert hnew
  rw [Session.startTwice]
  simp only
  split
  · intro hnew
    exact h.server
  · rename_i o hread
    intro hnew
    have hkey : o.key = cut.key := Option.some.inj ((Opening.key_of_read hread).symm.trans hfile)
    have hfirst := h.server.commit_left hkey (hnew.of_changes (Server.commit_changes _ o))
    exact hfirst.commit_left hkey hnew

/-- A step that addresses another timeline, or none, has the same result in both sessions, unless it
shows the one that is left out. -/
theorem server_perform {index : Nat} (hindex : cut.staysStep index) {step : Step}
    (hplain : step.isPlain) (hstep : step.addresses cut.key = false)
    (hnew : cut.Divides (session.perform index step).1.server) :
  (session.perform index step).1.server.Omits cut
    (session'.perform (cut.step index) step).1.server ∧
  (step.shows cut.key = false →
    (session'.perform (cut.step index) step).2 = (session.perform index step).2)
  := by
  have hserver := h.server
  have hkept := h.reachable.server.kept
  have hfiles := h.files
  have hticket : ∀ file, cut.staysTicket ⟨index, file⟩ := fun file => hindex
  have hfile : ∀ file, step.file? = some file → Path.key? file ≠ some cut.key := by
    intro file hfile hkey
    simp [Step.addresses, hfile, hkey] at hstep
  cases step with
  | start file args =>
    obtain ⟨hstarted, hresult⟩ := hserver.start hkept session.files (hfile file rfl) args hnew
    have hid : ∀ id, (session.server.start session.files file args).2 = .ok id → cut.staysRun id :=
      fun _ => hnew.staysRun_of_start (hfile file rfl)
    simp only [Session.perform, hfiles, hresult, startResult_eq hstarted hid]
    exact ⟨hstarted, fun _ => trivial⟩
  | startTwice file args =>
    obtain ⟨hservers, hresult⟩ := h.startTwice (hfile file rfl) args hnew
    exact ⟨hservers, fun _ => hresult⟩
  | stop file =>
    exact ⟨hserver.stop hkept (hticket file) .program (hfile file rfl), fun _ => rfl⟩
  | stopAll => cases hplain
  | finished file =>
    have hawait := hserver.awaitEnd? hkept (hticket file) (hfile file rfl)
    change Option.Rel _ _ (session'.server.awaitEnd? ⟨some (cut.step index), file⟩ file) at hawait
    simp only [Session.perform]
    generalize session.server.awaitEnd? _ file = a at hawait
    generalize session'.server.awaitEnd? _ file = b at hawait
    cases hawait with
    | none => exact ⟨hserver, fun _ => rfl⟩
    | some hawaits => exact ⟨hawaits, fun _ => rfl⟩
  | execute actor args =>
    have hexecuted := hserver.execute hkept (hticket "") session.files actor hfile hnew
    simp only [Session.perform, hfiles]
    exact ⟨hexecuted, fun _ => trivial⟩
  | running => exact ⟨hserver, fun hshows => by cases hshows⟩
  | state file =>
    refine ⟨hserver, fun hshows => ?_⟩
    simp only [Session.perform]
    rw [h.view? (by simpa [Step.shows] using hshows)]
  | advance milliseconds => exact ⟨hserver, fun _ => rfl⟩
  | write path node => exact ⟨hserver, fun _ => rfl⟩
  | remove path => exact ⟨hserver, fun _ => rfl⟩
  | register command => exact ⟨hserver.register hplain, fun _ => rfl⟩
  | await response => cases hplain
  | awaited keys =>
    simp only [Session.perform, hserver.awaiting]
    exact ⟨hserver, fun _ => trivial⟩
  | find name names =>
    simp only [Session.perform, hserver.commands]
    exact ⟨hserver, fun _ => trivial⟩
  | commands =>
    simp only [Session.perform, hserver.commands]
    exact ⟨hserver, fun _ => trivial⟩
  | call name invocation =>
    have hfound : ∀ c ∈ Command.allNamed session.server.commands name, c.behaviour.isInert :=
      fun c hc => hserver.inert.commands c (List.mem_of_mem_filter hc)
    obtain ⟨hcalled, houtcomes⟩ := Server.Omits.callEach invocation hfound hserver
    simp only [Session.perform, hserver.commands, houtcomes]
    exact ⟨hcalled, fun _ => trivial⟩
  | respond key invocation =>
    have htake := hserver.take_eq_none key
    simp only [Session.perform, Server.respond?, htake.1, htake.2, Option.map_none]
    exact ⟨hserver, fun _ => trivial⟩

/-- A step that addresses another timeline, or none, is performed in both sessions. -/
theorem perform {index : Nat} (hindex : cut.staysStep index) {step : Step} (hplain : step.isPlain)
    (hstep : step.addresses cut.key = false)
    (hnew : cut.Divides (session.perform index step).1.server) :
  Omits cut (session.perform index step).1 (session'.perform (cut.step index) step).1
  where
  reachable := h.reachable.happen (.perform _ step)
  reachable' := h.reachable'.happen (.perform _ step)
  files := by rw [files_perform, files_perform, h.files]
  server := (h.server_perform hindex hplain hstep hnew).1

theorem server_perform_left {index : Nat} (hindex : cut.staysStep index = false) {step : Step}
    (hstep : step.addresses cut.key) (hnew : cut.Divides (session.perform index step).1.server) :
  (session.perform index step).1.server.Omits cut session'.server
  := by
  have hserver := h.server
  have hkept := h.reachable.server.kept
  have hticket : ∀ file, cut.staysTicket ⟨index, file⟩ = false := fun file => hindex
  obtain ⟨file, hfile, hkey⟩ := Option.bind_eq_some_iff.mp (beq_iff_eq.mp hstep)
  cases step with
  | start named args =>
    obtain rfl := Option.some.inj hfile
    exact hserver.start_left session.files hkey args hnew
  | startTwice named args =>
    obtain rfl := Option.some.inj hfile
    exact h.startTwice_left hkey args hnew
  | stop named =>
    obtain rfl := Option.some.inj hfile
    exact hserver.stop_left hkept (hticket named) .program hkey
  | finished named =>
    obtain rfl := Option.some.inj hfile
    simp only [Session.perform]
    split
    · exact hserver
    · rename_i server hawait
      exact hserver.awaitEnd?_left hkept (hticket named) hkey hawait
  | execute actor args =>
    exact hserver.execute_left hkept (hticket "") session.files actor hfile hkey hnew
  | _ => cases hfile

/-- A step that addresses the timeline that is left out is performed in one session only. -/
theorem perform_left {index : Nat} (hindex : cut.staysStep index = false) {step : Step}
    (hstep : step.addresses cut.key) (hnew : cut.Divides (session.perform index step).1.server) :
  Omits cut (session.perform index step).1 session'
  where
  reachable := h.reachable.happen (.perform _ step)
  reachable' := h.reachable'
  files := by
    rw [files_perform, h.files]
    cases step <;> first | rfl | cases hstep
  server := h.server_perform_left hindex hstep hnew

/-! ### Whatever happens -/

/-- Something happens in both sessions, or it happens for the timeline that is left out. -/
theorem happen {x : Happening} (hplain : x.isPlain)
    (hticket : ∀ ticket, x.ticket? = some ticket → cut.staysTicket ticket = !x.addresses cut.key)
    (hnew : cut.Divides (session.happen x).server) :
  (cut.Drops x ∧ Omits cut (session.happen x) session') ∨
  ∃ y, cut.Keeps x y ∧ Omits cut (session.happen x) (session'.happen y)
  := by
  have hserver := h.server
  have hs := h.reachable.server
  have hleft : ∀ {x}, (session.happen x).files = session.files →
      (session.happen x).server.Omits cut session'.server → Omits cut (session.happen x) session' :=
    fun hfiles hservers =>
      ⟨h.reachable.happen _, h.reachable', h.files.trans hfiles.symm, hservers⟩
  have hkept : ∀ {x y}, (session'.happen y).files = (session.happen x).files →
      (session.happen x).server.Omits cut (session'.happen y).server →
      Omits cut (session.happen x) (session'.happen y) :=
    fun hfiles hservers => ⟨h.reachable.happen _, h.reachable'.happen _, hfiles, hservers⟩
  cases x with
  | perform index step =>
    cases hstep : step.addresses cut.key with
    | true =>
      have hindex : cut.staysStep index = false := by
        simpa [Cut.staysTicket, Happening.addresses, hstep] using hticket _ rfl
      exact .inl ⟨.addressed hstep, h.perform_left hindex hstep hnew⟩
    | false =>
      have hindex : cut.staysStep index = true := by
        simpa [Cut.staysTicket, Happening.addresses, hstep] using hticket _ rfl
      exact .inr ⟨_, .perform hstep, h.perform hindex hplain hstep hnew⟩
  | commit o =>
    by_cases hkey : o.key = cut.key
    · refine .inl ⟨.addressed (by simp [Happening.addresses, hkey]), ?_⟩
      exact hleft rfl (hserver.commit_left hkey hnew)
    · exact .inr ⟨_, .commit hkey, hkept h.files (hserver.commit hs.kept hkey hnew).1⟩
  | commitFor ticket file o =>
    by_cases hkey : o.key = cut.key
    · have hstruck : cut.staysTicket ticket = false := by
        simpa [Happening.addresses, hkey] using hticket ticket rfl
      refine .inl ⟨.addressed (by simp [Happening.addresses, hkey]), ?_⟩
      exact hleft rfl ((hserver.commit_left hkey hnew).answer_left hstruck _)
    · have hstays : cut.staysTicket ticket :=
        (hticket ticket rfl).trans (by simp [Happening.addresses, hkey])
      obtain ⟨hcommitted, hresult⟩ := hserver.commit hs.kept hkey hnew
      refine .inr ⟨_, .commitFor hkey, hkept h.files ?_⟩
      simp only [Session.happen, hresult, Server.errorOf?_map]
      exact hcommitted.answer hstays _
  | stopEach ticket ids => cases hplain
  | move move =>
    obtain ⟨hdrops, hmoved⟩ | ⟨move', hkeeps, hmoved⟩ := hserver.move hs move
    · exact .inl ⟨hdrops, hleft rfl hmoved⟩
    · exact .inr ⟨_, hkeeps, hkept h.files hmoved⟩
  | pass milliseconds =>
    refine .inr ⟨_, .pass milliseconds, hkept h.files ?_⟩
    simp only [Session.happen, hserver.clock]
    exact hserver.setClock _

omit h in
/-- All that happens is carried out in one session, and what is left of it in the other one. -/
theorem happens (xs : List Happening) :
  ∀ {session session' : Session}, Omits cut session session' → (∀ x ∈ xs, x.isPlain) →
    (∀ x ∈ xs, ∀ ticket, x.ticket? = some ticket →
      cut.staysTicket ticket = !x.addresses cut.key) →
    cut.Divides (xs.foldl Session.happen session).server →
    ∃ ys, cut.Leaves xs ys ∧
      Omits cut (xs.foldl Session.happen session) (ys.foldl Session.happen session')
  := by
  induction xs with
  | nil =>
    intro session session' h hplain htickets hnew
    exact ⟨[], .nil, h⟩
  | cons x rest ih =>
    intro session session' h hplain htickets hnew
    rw [List.forall_mem_cons] at hplain htickets
    have hhappened : cut.Divides (session.happen x).server :=
      hnew.of_changes (happens_changes rest _)
    obtain ⟨hdrops, hnext⟩ | ⟨y, hkeeps, hnext⟩ := h.happen hplain.1 htickets.1 hhappened
    · obtain ⟨ys, hleaves, hdone⟩ := ih hnext hplain.2 htickets.2 hnew
      exact ⟨ys, .drop hdrops hleaves, hdone⟩
    · obtain ⟨ys, hleaves, hdone⟩ := ih hnext hplain.2 htickets.2 hnew
      exact ⟨y :: ys, .keep hkeeps hleaves, hdone⟩

/-! ### Scripts -/

/-- What follows from a step, in both sessions. -/
theorem advance (milliseconds : Nat) :
  Omits cut (session.withServer (session.server.settle.advance milliseconds))
    (session'.withServer (session'.server.settle.advance milliseconds))
  where
  reachable := h.reachable.settle.advance (Server.moves_settle _) milliseconds
  reachable' := h.reachable'.settle.advance (Server.moves_settle _) milliseconds
  files := h.files
  server := (h.server.settle h.reachable.server).advance h.reachable.settle.server
    h.reachable'.settle.server (Server.moves_settle _) milliseconds

theorem after {index : Nat} (hindex : cut.staysStep index) {step : Step} (hplain : step.isPlain)
    (hstep : step.addresses cut.key = false)
    (hnew : cut.Divides (session.perform index step).1.server) :
  Omits cut (session.after index step) (session'.after (cut.step index) step)
  := (h.perform hindex hplain hstep hnew).advance step.duration

/-- Nothing follows in the other session from a step that is struck out. -/
theorem after_left (hmoves : session'.server.moves = []) {index : Nat}
    (hindex : cut.staysStep index = false) {step : Step} (hstep : step.addresses cut.key)
    (hnew : cut.Divides (session.perform index step).1.server) :
  Omits cut (session.after index step) session'
  := by
  have hduration : step.duration = 0 := by
    cases step <;> first | rfl | cases hstep
  have hafter := (h.perform_left hindex hstep hnew).advance step.duration
  rw [Server.settle_of_moves hmoves, hduration, h.reachable'.server.advance_zero hmoves] at hafter
  rw [Session.after, hduration]
  exact hafter

omit h in
/-- A script is carried out in one session, and what is left of it in the other one. -/
theorem runFrom (steps : List Step) :
  ∀ {session session' : Session} {index : Nat}, Omits cut session session' →
    session'.server.moves = [] → (∀ step ∈ steps, step.isPlain) →
    (∀ i step, steps[i]? = some step → cut.staysStep (index + i) = !step.addresses cut.key) →
    cut.Divides (session.runFrom index steps).server →
    Omits cut (session.runFrom index steps)
      (session'.runFrom (cut.step index) (without cut.key steps))
  := by
  induction steps with
  | nil =>
    intro session session' index h hmoves hplain hstays hnew
    exact h
  | cons step rest ih =>
    intro session session' index h hmoves hplain hstays hnew
    rw [List.forall_mem_cons] at hplain
    have hindex := hstays 0 step rfl
    have hrest : ∀ i other, rest[i]? = some other →
        cut.staysStep (index + 1 + i) = !other.addresses cut.key := by
      intro i other hother
      rw [Nat.add_assoc, Nat.add_comm 1]
      exact hstays (i + 1) other hother
    have hperformed : cut.Divides (session.perform index step).1.server := by
      apply hnew.of_changes
      apply (h.reachable.perform_after_changes index step).trans
      exact (h.reachable.after index step).runFrom_changes rest (index + 1)
    rw [Session.runFrom]
    cases hstep : step.addresses cut.key with
    | true =>
      rw [hstep] at hindex
      have hafter := h.after_left hmoves hindex hstep hperformed
      have hrun := ih hafter hmoves hplain.2 hrest hnew
      rw [Cut.step, rank_succ_of_not hindex] at hrun
      rwa [without, List.filter_cons_of_neg (by simp [hstep])]
    | false =>
      rw [hstep] at hindex
      have hafter := h.after hindex hplain.1 hstep hperformed
      have hrun := ih hafter (h.reachable'.moves_after _ step) hplain.2 hrest hnew
      rw [Cut.step, rank_succ hindex] at hrun
      rw [without, List.filter_cons_of_pos (by simp [hstep])]
      exact hrun

end Omits

/-! ### Leaving a timeline out of a script -/

/-- A timeline as it is in two sessions: its runs have made the same calls and published the same
events at the same times, and it is shown in the same state. -/
structure SameFor (key : String) (session session' : Session) : Prop where
  clock : session'.server.clock = session.server.clock
  callsBy : session'.server.callsBy key = session.server.callsBy key
  publishedBy : session'.server.publishedBy key = session.server.publishedBy key
  view? : ∀ file, Path.key? file = some key → session'.view? file = session.view? file

theorem Omits.sameFor {cut : Cut} {session session' : Session} (h : Omits cut session session')
    {key : String} (hkey : key ≠ cut.key) :
  session.SameFor key session'
  where
  clock := h.server.clock
  callsBy := h.server.callsBy hkey
  publishedBy := h.server.publishedBy hkey
  view? file hfile := h.view? (by simpa [hfile] using hkey)

section

variable (files : Files) (settings : Settings) {commands : List Command}
  (hcommands : ∀ c ∈ commands, c.behaviour.isInert)

include hcommands

/-- Nothing is to be left out of a new session. -/
theorem Omits.new (cut : Cut) :
  Omits cut { files, server := { settings, commands } } { files, server := { settings, commands } }
  where
  reachable := .new files settings commands []
  reachable' := .new files settings commands []
  files := rfl
  server := {
    settings := rfl
    commands := rfl
    awaiting := rfl
    clock := rfl
    stays := by
      intro id key hkey
      cases hkey
    runs := rfl
    turns := rfl
    timeline? := fun _ _ => rfl
    fits := List.forall_mem_nil _
    pending := rfl
    journal := rfl
    inert := ⟨rfl, hcommands, List.forall_mem_nil _⟩ }

/-- A script is carried out in one new session, and what is left of it in another one. -/
theorem Omits.run {cut : Cut} {steps : List Step} (hplain : ∀ step ∈ steps, step.isPlain)
    (hstays : ∀ i step, steps[i]? = some step → cut.staysStep i = !step.addresses cut.key)
    (hnew : cut.Divides (run { files, server := { settings, commands } } steps).server) :
  Omits cut (run { files, server := { settings, commands } } steps)
    (run { files, server := { settings, commands } } (without cut.key steps))
  := by
  have hstart : cut.step 0 = 0 := by rw [Cut.step, rank, Nat.count_zero]
  have hrun := Omits.runFrom steps (.new files settings hcommands cut) rfl hplain
    (fun i step hstep => (congrArg cut.staysStep (Nat.zero_add i)).trans (hstays i step hstep)) hnew
  rwa [hstart] at hrun

/-- Timelines do not interfere. In a session whose commands do nothing to the server, and in which
no response is awaited and no step stops all timelines, every step that addresses a timeline can be
struck out. Then nothing changes for any other timeline, whichever steps have been carried out:
neither the calls of its runs and its events, with their times, nor the state in which it is shown.
The other steps have the same results and the same replies, under their new numbers, except where
they show the timeline that is left out. The same holds if what happens happens in any other
order. -/
theorem separates {steps : List Step} (hplain : ∀ step ∈ steps, step.isPlain) {key other : String}
    (hne : other ≠ key) :
  let new : Session := { files, server := { settings, commands } }
  (new.run steps).SameFor other (new.run (without key steps)) ∧
  (∀ before step after, steps = before ++ step :: after → step.addresses key = false →
    let n := before.length
    let n' := (without key before).length
    let full := new.run before
    let part := new.run (without key before)
    (full.after n step).SameFor other (part.after n' step) ∧
    (step.shows key = false → (part.perform n' step).2 = (full.perform n step).2) ∧
    (new.run (without key steps)).server.repliesTo n' = (new.run steps).server.repliesTo n) ∧
  ∀ (xs : List Happening) (staysStep : Nat → Bool), (∀ x ∈ xs, x.isPlain) →
    (∀ x ∈ xs, ∀ ticket, x.ticket? = some ticket →
      ticket.step.all staysStep = !x.addresses key) →
    let full := xs.foldl happen new
    let cut := Cut.leaving key staysStep full.server
    ∃ ys, cut.Leaves xs ys ∧ full.SameFor other (ys.foldl happen new) ∧
      ∀ n, staysStep n →
        (ys.foldl happen new).server.repliesTo (cut.step n) = full.server.repliesTo n
  := by
  intro new
  let cut := Cut.leaving key (fun i => steps[i]?.all (!·.addresses key)) (new.run steps).server
  have hstays : ∀ i step, steps[i]? = some step → cut.staysStep i = !step.addresses key := by
    intro i step hstep
    simp [cut, Cut.leaving, hstep]
  have hend : Omits cut (new.run steps) (new.run (without key steps)) :=
    .run files settings hcommands hplain hstays (.leaving _)
  refine ⟨hend.sameFor hne, ?_, ?_⟩
  · rintro before step after rfl hstep n n' full part
    have hreachable : full.Reachable := .run (.new files settings commands []) before
    have hn : cut.staysStep n := by simp [hstays n step (by simp [n]), hstep]
    have hearlier : ∀ i earlier, before[i]? = some earlier →
        cut.staysStep i = !earlier.addresses key := by
      intro i earlier hi
      apply hstays
      rw [List.getElem?_append_left (List.getElem?_eq_some_iff.mp hi).1, hi]
    have hn' : cut.step n = n' := (length_filter_eq_rank hearlier).symm
    -- Whatever has run by the end is divided, and so is what has run earlier.
    have hafter : cut.Divides (full.after n step).server := by
      apply hend.server.stays.of_changes
      rw [run_append]
      exact (hreachable.after n step).runFrom_changes after (n + 1)
    have hperform : cut.Divides (full.perform n step).1.server :=
      hafter.of_changes (hreachable.perform_after_changes n step)
    have hfull : cut.Divides full.server := hperform.of_changes (full.perform_changes n step)
    rw [List.forall_mem_append, List.forall_mem_cons] at hplain
    obtain ⟨hbefore, hstepPlain, -⟩ := hplain
    have homits : Omits cut full part := .run files settings hcommands hbefore hearlier hfull
    rw [← hn']
    exact ⟨(homits.after hn hstepPlain hstep hperform).sameFor hne,
      (homits.server_perform hn hstepPlain hstep hperform).2, hend.server.repliesTo hn⟩
  · intro xs staysStep hxs htickets full cut
    obtain ⟨ys, hleaves, homits⟩ :=
      Omits.happens xs (.new files settings hcommands cut) hxs htickets (.leaving _)
    exact ⟨ys, hleaves, homits.sameFor hne, fun n hn => homits.server.repliesTo hn⟩

end

/-- A timeline that is waited for until its end, beside one that is started and stopped meanwhile.
Without the other one its calls, the last of which fails, come at the same times, and so does the
answer. -/
theorem separates_of_stop :
  let new : Session := {
    files := .ofList [("timelines/rain", .file (.text "say drip\n#wait 2\nsay drop")),
      ("timelines/show", .file (.text "say hi\n#wait 5\nfall"))]
    server := { commands := [{ given := ["say"] },
      { given := ["fall"], behaviour := .fail "down" [] }] } }
  let before := [.start "rain" [], .start "show" [], .execute .console ["stop", "rain"],
    .start "rain" []]
  let after := [.advance 2, .stop "rain", .advance 3, .running]
  let full := new.run (before ++ .finished "show" :: after)
  let part := new.run (without "rain" (before ++ .finished "show" :: after))
  full.SameFor "show" part ∧
  part.server.repliesTo 1 = full.server.repliesTo 4 ∧
  (part.server.callsBy "show").map (fun (time, call) => (time, call.invocation.raw))
    = [(0, "say hi"), (5, "fall")] ∧
  full.server.repliesTo 4 = [(5, .ended .finished)] ∧
  (full.server.callsBy "rain").length = 3 ∧ part.server.callsBy "rain" = []
  := by
  intro new before after full part
  have hcommands : ∀ c ∈ new.server.commands, c.behaviour.isInert := by decide
  have hsteps : ∀ step ∈ before ++ .finished "show" :: after, step.isPlain := by decide
  have hne : "show" ≠ "rain" := by decide
  obtain ⟨hsame, hother, -⟩ := separates new.files {} hcommands hsteps hne
  obtain ⟨-, -, hreplies⟩ := hother before (.finished "show") after rfl (by decide +kernel)
  exact ⟨hsame, hreplies, by decide +kernel, by decide +kernel, by decide +kernel,
    by decide +kernel⟩

end Session

end CommandTimelines
