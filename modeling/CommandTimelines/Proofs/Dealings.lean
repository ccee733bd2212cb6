import CommandTimelines.Proofs.Interleaving
import CommandTimelines.Proofs.Responses

/-!
# One handler for one response

Handlers that await responses are registered by whoever may ask for a response: by steps, by the
handlers of commands, and by those of responses themselves. They are called for a step that gives a
response, or for an action that delivers one. `Session.dealings` says in which order whatever
happens in a session deals with them, and nothing else does (`Session.deals_happen`).

A session is *dealt* (`Session.Dealt`) with a history of dealings if it comes about by any
happenings in any order, in between of which anyone may take a handler and call it later on. The
handler that awaits a response is gone before it is called, so that what becomes of the call does
not matter to it, and what it registers itself comes after.
-/

namespace CommandTimelines

open Host Script Text

/-- What a handler registers when it is called. -/
def Host.Behaviour.registers (invocation : Invocation) : Behaviour → List Dealing
  | .ask key answer => [.register ⟨key, answer, some invocation⟩]
  | _ => []

/-- A handler that is called takes none. -/
theorem Host.Behaviour.taken_registers (invocation : Invocation) (behaviour : Behaviour) :
  (behaviour.registers invocation).filterMap (·.taken?) = []
  := by
  cases behaviour <;> rfl

/-- The handler of a response that is called. -/
def Target.responder? : Target → Option Awaiting
  | .command _ => none
  | .response a => some a

/-- The handler of a response that an entry tells of. -/
def Entry.responder? (entry : Entry) : Option Awaiting :=
  entry.call?.bind (·.target.responder?)

namespace Server

variable (s : Server)

/-- The handlers of responses that have been called, latest first. -/
def responders : List Awaiting := s.journal.filterMap (·.responder?)

/-- The handlers that await responses, and those that have been called. -/
def responses : List Awaiting × List Awaiting := (s.awaiting, s.responders)

/-! ### What has to do with no handler -/

theorem detached_responses :
  Detached responses
  where
  record s fact h := by
    cases fact with
    | called caller call => exact absurd rfl (h caller call)
    | _ => rfl
  runs _ _ := rfl
  turns _ _ := rfl
  timelines _ _ := rfl
  pending _ _ := rfl

/-! ### Dealings of the server -/

/-- `s.Deals t dealings called`: from one server comes another, as handlers are dealt with and those of
responses are called, which are given latest first. -/
structure Deals (s t : Server) (dealings : List Dealing) (called : List Awaiting) : Prop where
  table : Host.Deals s.awaiting dealings t.awaiting
  called : t.responders = called ++ s.responders

namespace Deals

variable {s t u : Server} {dealings later : List Dealing} {called called' : List Awaiting}

theorem of_eq (h : t.responses = s.responses) :
  s.Deals t [] []
  := by
  obtain ⟨hawaiting, hresponders⟩ := Prod.mk.inj h
  exact ⟨hawaiting ▸ .nil, hresponders⟩

theorem trans (h : s.Deals t dealings called) (hlater : t.Deals u later called') :
  s.Deals u (dealings ++ later) (called' ++ called)
  where
  table := h.table.trans hlater.table
  called := by rw [hlater.called, h.called, List.append_assoc]

/-- What has to do with no handler may come before. -/
theorem head (h : t.responses = s.responses) (hlater : t.Deals u dealings called) :
  s.Deals u dealings called
  := by
  have hboth := (of_eq h).trans hlater
  rwa [List.nil_append, List.append_nil] at hboth

/-- What has to do with no handler may come after. -/
theorem tail (h : s.Deals t dealings called) (hlater : u.responses = t.responses) :
  s.Deals u dealings called
  := by
  have hboth := h.trans (of_eq hlater)
  rwa [List.nil_append, List.append_nil] at hboth

end Deals

theorem deals_react (invocation : Invocation) (behaviour : Behaviour) :
  s.Deals (s.react invocation behaviour) (behaviour.registers invocation) []
  := by
  cases behaviour with
  | ask key answer => exact ⟨.register .nil _, rfl⟩
  | stop => exact .of_eq (detached_responses.stop s _ _ _)
  | _ => exact .of_eq rfl

theorem deals_call (caller : Option Work) (c : Call) :
  s.Deals (s.call caller c) (c.target.behaviour.registers c.invocation) c.target.responder?.toList
  := by
  have hrecord : s.Deals (s.record (.called caller c)) [] c.target.responder?.toList := by
    refine ⟨.nil, ?_⟩
    cases c.target.responder?.eq_none_or_eq_some with
    | inl hnone => simp [responders, record, Entry.responder?, Entry.call?, hnone]
    | inr hsome =>
      obtain ⟨a, ha⟩ := hsome
      simp [responders, record, Entry.responder?, Entry.call?, ha]
  exact hrecord.trans (deals_react _ c.invocation c.target.behaviour)

theorem deals_callCommand (caller : Option Work) (c : Command) (invocation : Invocation) :
  s.Deals (s.callCommand caller c invocation) (c.behaviour.registers invocation) []
  := by
  unfold callCommand
  simp only
  split
  · exact .head (detached_responses.log s _) (deals_call _ caller ⟨.command c, invocation⟩)
  · exact deals_call s caller ⟨.command c, invocation⟩

theorem deals_callEach (invocation : Invocation) (found : List Command) :
  ∀ s : Server, s.Deals (s.callEach invocation found).1
    (found.flatMap (·.behaviour.registers invocation)) []
  := by
  induction found with
  | nil =>
    intro s
    exact .of_eq rfl
  | cons c rest ih =>
    intro s
    exact (s.deals_callCommand none c invocation).trans (ih _)

/-- How a response is dealt with: the handler that awaits it is taken, and what this registers comes
after. -/
def responding (key : String) (invocation : Invocation) : List Dealing :=
  match Awaiting.take s.awaiting key with
  | none => [.take key none]
  | some (a, _) => .take key (some a) :: a.behaviour.registers invocation

theorem responding_of_take {key : String} {a : Awaiting} {rest : List Awaiting}
    (h : Awaiting.take s.awaiting key = some (a, rest)) (invocation : Invocation) :
  s.responding key invocation = .take key (some a) :: a.behaviour.registers invocation ∧
    (s.responding key invocation).filterMap (·.taken?) = [a]
  := by
  have hresponding : s.responding key invocation
      = .take key (some a) :: a.behaviour.registers invocation := by
    rw [responding, h]
  have htaken := a.behaviour.taken_registers invocation
  refine ⟨hresponding, ?_⟩
  rw [hresponding]
  exact congrArg (a :: ·) htaken

theorem deals_of_respond? {caller : Option Work} {key : String} {invocation : Invocation}
    {s' : Server} {outcome : Outcome} (h : s.respond? caller key invocation = some (s', outcome)) :
  s.Deals s' (s.responding key invocation)
    ((s.responding key invocation).filterMap (·.taken?))
  := by
  obtain ⟨⟨a, rest⟩, htake, heq⟩ := Option.map_eq_some_iff.mp h
  obtain ⟨rfl, -⟩ := Prod.mk.inj heq
  obtain ⟨hresponding, htaken⟩ := s.responding_of_take htake invocation
  have hgone : s.Deals { s with awaiting := rest } [.take key (some a)] [] :=
    ⟨.take .nil htake, rfl⟩
  rw [htaken, hresponding]
  exact hgone.trans (deals_call _ caller ⟨.response a, invocation⟩)

theorem deals_of_respond?_eq_none {caller : Option Work} {key : String} {invocation : Invocation}
    (h : s.respond? caller key invocation = none) :
  s.Deals s (s.responding key invocation)
    ((s.responding key invocation).filterMap (·.taken?))
  := by
  have htake : Awaiting.take s.awaiting key = none := Option.map_eq_none_iff.mp h
  rw [responding, htake]
  exact ⟨.miss .nil htake, rfl⟩

/-- What an action deals with when it calls its handler. -/
def handling : Action → List Dealing
  | .delay _ _ => []
  | .invoke _ _ c raw silent args => c.behaviour.registers { raw, silent, args }
  | .deliver _ key raw args => s.responding key { raw, args }

theorem deals_carryOut (work : Work) :
  s.Deals (s.carryOut work) (s.handling work.action)
    ((s.handling work.action).filterMap (·.taken?))
  := by
  rw [carryOut]
  cases work.action with
  | delay line milliseconds => exact .of_eq rfl
  | invoke line name c raw silent args =>
    rw [handling, Behaviour.taken_registers]
    exact s.deals_callCommand (some work) c { raw, silent, args }
  | deliver line key raw args =>
    simp only
    split
    · rename_i hnone
      exact (s.deals_of_respond?_eq_none hnone).tail (detached_responses.log s _)
    · rename_i s' outcome hrespond
      exact s.deals_of_respond? hrespond

/-- What the next step of a run deals with. -/
def working (id : RunId) : List Dealing :=
  match s.runs[id]? with
  | none => []
  | some run =>
    match run.activity with
    | .calling action => s.handling action
    | _ => []

theorem deals_work (id : RunId) :
  s.Deals (s.work id) (s.working id) ((s.working id).filterMap (·.taken?))
  := by
  cases hrun : s.runs[id]? with
  | none =>
    simp only [work, working, hrun]
    exact .of_eq rfl
  | some run =>
    cases hactivity : run.activity with
    | ready =>
      simp only [work, working, hrun, hactivity]
      exact .of_eq (detached_responses.proceed s id run)
    | calling action =>
      simp only [work, working, hrun, hactivity, handle]
      -- What is awaited does not change before the handler is called, nor by a change of turns.
      apply Deals.tail _ (detached_responses.yieldTurn _ id)
      exact .head (detached_responses.setActivity s id _)
        (deals_carryOut (s.setActivity id _) ⟨id, run.isCleaning, action⟩)
    | returned action error =>
      simp only [work, working, hrun, hactivity]
      exact .of_eq (detached_responses.takeUp s id run action error)
    | waiting line milliseconds deadline =>
      simp only [work, working, hrun, hactivity]
      split
      · exact .of_eq ((detached_responses.conclude _ _ _).trans (detached_responses.log s _))
      · split
        · exact .of_eq (detached_responses.conclude s _ _)
        · exact .of_eq rfl

end Server

/-! ### Dealings in a session -/

namespace Session

variable (session : Session)

/-- What is dealt with by what happens. -/
def dealings : Happening → List Dealing
  | .perform _ (.await response) => [.register response]
  | .perform _ (.call name invocation) =>
    (Command.allNamed session.server.commands name).flatMap (·.behaviour.registers invocation)
  | .perform _ (.respond key invocation) => session.server.responding key invocation
  | .move (.work id) => session.server.working id
  | _ => []

/-- A step deals with handlers if it registers one, if it calls commands, or if it gives a
response. -/
theorem deals_perform (index : Nat) (step : Step) :
  session.server.Deals (session.perform index step).1.server
    (session.dealings (.perform index step))
    ((session.dealings (.perform index step)).filterMap (·.taken?))
  := by
  have hdetached := Server.detached_responses
  cases step with
  | start file args => exact .of_eq (hdetached.start session.server session.files file args)
  | startTwice file args =>
    apply Server.Deals.of_eq
    rw [perform, startTwice]
    simp only
    split
    · rfl
    · exact (hdetached.commit _ _).trans (hdetached.commit _ _)
  | stop file => exact .of_eq (hdetached.stop session.server ⟨index, file⟩ .program file)
  | stopAll => exact .of_eq (hdetached.pending session.server _)
  | finished file =>
    apply Server.Deals.of_eq
    simp only [perform]
    split
    · rfl
    · rename_i server hawait
      exact hdetached.awaitEnd? _ hawait
  | execute actor args =>
    exact .of_eq (hdetached.execute session.server ⟨index, ""⟩ session.files actor args)
  | await response => exact ⟨.register .nil response, rfl⟩
  | call name invocation =>
    have hnone : (session.dealings (.perform index (.call name invocation))).filterMap (·.taken?)
        = [] := by
      simp [dealings, List.filterMap_flatMap, Behaviour.taken_registers]
    rw [hnone]
    exact Server.deals_callEach invocation (Command.allNamed session.server.commands name)
      session.server
  | respond key invocation =>
    simp only [perform]
    split
    · rename_i hnone
      exact session.server.deals_of_respond?_eq_none hnone
    · rename_i server outcome hrespond
      exact session.server.deals_of_respond? hrespond
  | _ => exact .of_eq rfl

theorem deals_happen (x : Happening) :
  session.server.Deals (session.happen x).server (session.dealings x)
    ((session.dealings x).filterMap (·.taken?))
  := by
  have hdetached := Server.detached_responses
  cases x with
  | perform index step => exact session.deals_perform index step
  | commit opening => exact .of_eq (hdetached.commit session.server opening)
  | commitFor ticket file opening =>
    exact .of_eq ((hdetached.answer _ _ _).trans (hdetached.commit session.server opening))
  | stopEach ticket ids => exact .of_eq (hdetached.pending session.server _)
  | move move =>
    cases move with
    | work id => exact session.server.deals_work id
    | serve i => exact .of_eq (hdetached.serve session.server i)
  | pass milliseconds => exact .of_eq rfl

/-- `session.Dealt history held`: the session comes about from a new one by any happenings in any
order, and by handlers being taken, by anyone, and called later on, if at all. The history says how
handlers that await responses have been dealt with, and those that were taken and have not been
called are still held. -/
inductive Dealt : Session → List Dealing → List Awaiting → Prop
  | new (files : Files) (settings : Settings) (commands : List Command) :
      Dealt { files, server := { settings, commands } } [] []
  | happen {session : Session} {history : List Dealing} {held : List Awaiting}
      (h : Dealt session history held) (x : Happening) :
      Dealt (session.happen x) (history ++ session.dealings x) held
  | take {session : Session} {history : List Dealing} {held rest : List Awaiting}
      (h : Dealt session history held) {key : String} {a : Awaiting}
      (htake : Awaiting.take session.server.awaiting key = some (a, rest)) :
      Dealt (session.withServer { session.server with awaiting := rest })
        (history ++ [.take key (some a)]) (a :: held)
  | miss {session : Session} {history : List Dealing} {held : List Awaiting}
      (h : Dealt session history held) {key : String}
      (htake : Awaiting.take session.server.awaiting key = none) :
      Dealt session (history ++ [.take key none]) held
  | call {session : Session} {history : List Dealing} {held : List Awaiting}
      (h : Dealt session history held) {a : Awaiting} (ha : a ∈ held) (caller : Option Work)
      (invocation : Invocation) :
      Dealt (session.withServer (session.server.call caller ⟨.response a, invocation⟩))
        (history ++ a.behaviour.registers invocation) (held.erase a)

/-- `session.Responds x key invocation`: by what happens, the handler that awaits a key is to be
called with an invocation, be it for a step or for an action of a run. -/
inductive Responds : Happening → String → Invocation → Prop
  | step (index : Nat) (key : String) (invocation : Invocation) :
      Responds (.perform index (.respond key invocation)) key invocation
  | deliver {id : RunId} {run : Run} (hrun : session.server.runs[id]? = some run) {line : Nat}
      {key raw : String} {args : List String}
      (hcalling : run.activity = .calling (.deliver line key raw args)) :
      Responds (.move (.work id)) key { raw, args }

namespace Dealt

variable {session : Session} {history : List Dealing} {held : List Awaiting}

theorem table (h : Dealt session history held) :
  Host.Deals [] history session.server.awaiting
  := by
  induction h with
  | new files settings commands => exact .nil
  | @happen session _ _ h x ih => exact ih.trans (session.deals_happen x).table
  | take h htake ih => exact ih.take htake
  | miss h htake ih => exact ih.miss htake
  | @call session _ _ h a ha caller invocation ih =>
    exact ih.trans (session.server.deals_call caller ⟨.response a, invocation⟩).table

/-- Of the handlers that were taken, some have been called and the others are held. -/
theorem taken_perm (h : Dealt session history held) :
  (history.filterMap (·.taken?)).Perm (session.server.responders ++ held)
  := by
  induction h with
  | new files settings commands => exact List.Perm.refl []
  | @happen session history held h x ih =>
    rw [List.filterMap_append, (session.deals_happen x).called, List.append_assoc]
    exact List.perm_append_comm.trans (ih.append_left _)
  | @take session history held rest h key a htake ih =>
    have hswap : (held ++ [a]).Perm (a :: held) := List.perm_append_comm
    rw [List.filterMap_append]
    apply (ih.append_right [a]).trans
    rw [List.append_assoc]
    exact hswap.append_left _
  | miss h htake ih =>
    rw [List.filterMap_append]
    exact List.append_nil _ ▸ ih
  | @call session history held h a ha caller invocation ih =>
    rw [List.filterMap_append, Behaviour.taken_registers, List.append_nil]
    have hcalled := (session.server.deals_call caller ⟨.response a, invocation⟩).called
    rw [withServer, hcalled]
    exact ih.trans (((List.perm_cons_erase ha).append_left _).trans List.perm_middle)

/-- What a response does, whoever gives it. If no handler stands under its key, nothing is changed
and nothing is called; if one does, it is called, and under the key awaits from then on what it
registers itself, and nothing else. -/
theorem responds (h : Dealt session history held) {x : Happening} {key : String}
    {invocation : Invocation} (hresponds : session.Responds x key invocation) :
  let s := session.server
  let t := (session.happen x).server
  ((¬ ∃ n a, Stands history (lower key) n a) →
    t.awaiting = s.awaiting ∧ t.responders = s.responders) ∧
  ∀ n a, Stands history (lower key) n a → t.responders = a :: s.responders ∧
    ∀ b, b ∈ t.awaiting ∧ b.answersTo key ↔
      .register b ∈ a.behaviour.registers invocation ∧ b.answersTo key
  := by
  intro s t
  have hdealings : session.dealings x = s.responding key invocation := by
    cases hresponds with
    | step index => rfl
    | deliver hrun hcalling =>
      simp only [dealings, Server.working, hrun, hcalling]
      rfl
  have hdeals := session.deals_happen x
  rw [hdealings] at hdeals
  have htake := h.table.recounts.take_iff key
  constructor
  · intro hnone
    have hmiss : Awaiting.take s.awaiting key = none := by
      cases htaken : Awaiting.take s.awaiting key with
      | none => rfl
      | some taken =>
        rw [htaken] at htake
        obtain ⟨n, hn⟩ := (htake taken.1).mp rfl
        exact absurd ⟨n, taken.1, hn⟩ hnone
    have hresponding : s.responding key invocation = [.take key none] := by
      rw [Server.responding, hmiss]
    rw [hresponding] at hdeals
    refine ⟨?_, hdeals.called⟩
    rw [hdeals.table.eq_foldl, List.foldl_cons, List.foldl_nil, Dealing.leaves,
      List.filter_eq_self]
    simpa [Awaiting.answersTo] using Awaiting.take_eq_none_iff.mp hmiss
  · intro n first hstands
    obtain ⟨⟨a, rest⟩, hsome, rfl⟩ := Option.map_eq_some_iff.mp ((htake first).mpr ⟨n, hstands⟩)
    obtain ⟨hresponding, htaken⟩ := s.responding_of_take hsome invocation
    rw [htaken, hresponding] at hdeals
    refine ⟨hdeals.called, ?_⟩
    intro b
    have hrecounts := (h.table.trans hdeals.table).recounts
    rw [Awaiting.answersTo_iff, hrecounts.mem_iff, List.append_cons]
    -- Nothing stands under the key right after the handler was taken.
    have hgone : ¬ ∃ n, Stands (history ++ [.take key (some a)]) (lower key) n b := by
      rw [Stands.exists_concat_iff]
      rintro (⟨-, hne⟩ | ⟨⟨⟩, -⟩)
      exact hne rfl
    cases a.behaviour with
    | ask key' answer =>
      simp only [Behaviour.registers, Stands.exists_concat_iff, hgone, false_and, false_or,
        List.mem_singleton, eq_comm]
    | _ => simpa [Behaviour.registers] using hgone

/-! ### Scripts -/

/-- Whatever follows without time passing only adds to the history. -/
theorem settle (h : Dealt session history held) :
  ∃ later, Dealt (session.withServer session.server.settle) (history ++ later) held
  := by
  apply Server.settle_induction _
    (P := fun s => ∃ later, Dealt (session.withServer s) (history ++ later) held)
  · rintro s move ⟨later, hs⟩
    use later ++ (session.withServer s).dealings (.move move)
    rw [← List.append_assoc]
    exact hs.happen (.move move)
  · exact ⟨[], by rwa [List.append_nil]⟩

theorem setClock (h : Dealt session history held) {time : Nat}
    (htime : session.server.clock ≤ time) :
  Dealt (session.withServer (session.server.setClock time)) history held
  := by
  have hpass := h.happen (.pass (time - session.server.clock))
  rw [Session.happen, Nat.add_sub_cancel' htime] at hpass
  exact List.append_nil history ▸ hpass

/-- A step and everything that follows from it only add to the history. -/
theorem after (h : Dealt session history held) (hreachable : session.Reachable) (index : Nat)
    (step : Step) :
  ∃ later, Dealt (session.after index step) (history ++ later) held
  := by
  obtain ⟨later, hsettled⟩ := (h.happen (.perform index step)).settle
  rw [List.append_assoc] at hsettled
  apply (hreachable.happen (.perform index step)).settle.server.advance_induction
    (P := fun s => ∃ later,
      Dealt ((session.perform index step).1.withServer s) (history ++ later) held)
    _ _ (Server.moves_settle _) ⟨_, hsettled⟩
  · rintro s ⟨later, hs⟩
    obtain ⟨later', hs'⟩ := hs.settle
    rw [List.append_assoc] at hs'
    exact ⟨_, hs'⟩
  · rintro s time - htime - ⟨later, hs⟩
    exact ⟨later, hs.setClock htime⟩

end Dealt

/-- However a script of steps goes, there is a history of its dealings. -/
theorem exists_dealt_run (files : Files) (settings : Settings) (commands : List Command)
    (steps : List Step) :
  ∃ history, Dealt (run { files, server := { settings, commands } } steps) history []
  := by
  have hfrom : ∀ (steps : List Step) (index : Nat) {session : Session} {history : List Dealing},
      session.Reachable → Dealt session history [] →
        ∃ history', Dealt (session.runFrom index steps) history' [] := by
    intro steps
    induction steps with
    | nil =>
      intro index session history _ h
      exact ⟨history, h⟩
    | cons step rest ih =>
      intro index session history hreachable h
      obtain ⟨later, hafter⟩ := h.after hreachable index step
      exact ih (index + 1) (hreachable.after index step) hafter
  exact hfrom steps 0 (.new files settings commands []) (.new files settings commands)

/-! ### One handler for one response -/

open Classical in
/-- What is known of the handlers that await responses, after a history of dealings and while some
of those that were taken are held. -/
structure OneShot (session : Session) (history : List Dealing) (held : List Awaiting) : Prop where
  /-- Each handler that was registered is called once at most: the handlers that were called, those
  that are held and those that are awaiting responses were registered, none of them counted
  twice. -/
  once : (session.server.responders ++ held ++ session.server.awaiting).Subperm
    (history.filterMap (·.registered?))
  /-- Only what was taken is called. -/
  taken_perm : (history.filterMap (·.taken?)).Perm (session.server.responders ++ held)
  /-- Under a key is taken the handler that was registered last, if none has been taken since, and
  otherwise nothing. -/
  taken_iff : ∀ {m key taken}, history[m]? = some (.take key taken) →
    ∀ a, taken = some a ↔ ∃ n, Stands (history.take m) (lower key) n a
  /-- What is taken where it stands does not stand again. -/
  gone : ∀ {m key taken n a}, history[m]? = some (.take key taken) →
    Stands (history.take m) (lower key) n a → ∀ {m' k b}, m < m' → ¬ Stands (history.take m') k n b
  /-- Whoever asks is told how many handlers stand, and under which keys. -/
  awaited : ∀ index keys, (session.perform index (.awaited keys)).2
    = .awaited {k | ∃ n a, Stands history k n a}.ncard
      (keys.map fun key => decide (∃ n a, Stands history (lower key) n a))
  /-- A response that nobody awaits changes nothing and calls nothing. -/
  unawaited : ∀ {x key invocation}, session.Responds x key invocation →
    (¬ ∃ n a, Stands history (lower key) n a) →
      (session.happen x).server.awaiting = session.server.awaiting ∧
      (session.happen x).server.responders = session.server.responders
  /-- A response is handled by the handler that stands under its key. Whatever this does, it is gone
  then: what awaits under the key is what it has registered itself. -/
  handled : ∀ {x key invocation}, session.Responds x key invocation →
    ∀ {n a}, Stands history (lower key) n a →
      (session.happen x).server.responders = a :: session.server.responders ∧
      ∀ b, b ∈ (session.happen x).server.awaiting ∧ b.answersTo key ↔
        .register b ∈ a.behaviour.registers invocation ∧ b.answersTo key

/-- Responses that are awaited are handled once, by the handler that was registered last. However
handlers were registered, taken and called, and by whom, every one of them is called once at most. A
response finds the handler that was registered last under its key, unless one has been taken since,
and otherwise changes nothing. A handler is gone as soon as it is taken, whatever it does then, and
what it registers itself under its own key stays. As many handlers are awaiting responses as there
are keys under which one was registered since one was last taken. -/
theorem Dealt.oneShot {session : Session} {history : List Dealing} {held : List Awaiting}
    (h : session.Dealt history held) :
  session.OneShot history held
  := by
  have hrecounts := h.table.recounts
  refine ⟨?_, h.taken_perm, hrecounts.taken, ?_, ?_, ?_, ?_⟩
  · exact (h.taken_perm.symm.append_right _).subperm.trans h.table.subperm
  · intro m key taken n a htake hstands m' k b hm
    exact hstands.not_again htake hm
  · classical
    intro index keys
    rw [hrecounts.ncard_keys]
    apply congrArg (Result.awaited _)
    apply List.map_congr_left
    intro key _
    rw [Bool.eq_iff_iff, decide_eq_true_iff]
    exact hrecounts.any_answersTo key
  · intro x key invocation hresponds hnone
    exact (h.responds hresponds).1 hnone
  · intro x key invocation hresponds n a hstands
    exact (h.responds hresponds).2 n a hstands

/-- A command asks for a response, the handler of which asks again under its own key, and is
answered three times. -/
theorem Dealt.oneShot_again :
  let second : Behaviour := .fail "no" []
  let ask : Command := { given := ["ask"], behaviour := .ask "YES" (.ask "Yes" second) }
  let files : Files := .ofList [("timelines/show", .file (.text "/ask\nyes\nyes 1\nyes 2"))]
  let session := run { files, server := { commands := [ask] } } [.start "show" []]
  let asked : Invocation := { raw := "ask" }
  ∃ history, session.Dealt history [] ∧ session.OneShot history [] ∧
    session.server.responders
      = [⟨"Yes", second, some { raw := "yes" }⟩, ⟨"YES", .ask "Yes" second, some asked⟩] ∧
    session.server.awaiting = []
  := by
  intro second ask files session asked
  obtain ⟨history, hdealt⟩ := exists_dealt_run files {} [ask] [.start "show" []]
  refine ⟨history, hdealt, hdealt.oneShot, ?_, ?_⟩
  · decide +kernel
  · decide +kernel

end Session

end CommandTimelines
