import CommandTimelines.Proofs.Erasure
import CommandTimelines.Proofs.Spelling

/-!
# Requests that are refused

An operator who may not use a file can do nothing to it and learns nothing about it. A request
changes the server only if it starts or stops a file that the actor may use, and apart from that it
leaves notes and an answer (`Server.execute_cases`). What is noted and answered where the actor may
not use the file is the same in every server and for all files (`Server.execute_of_not_mayUse`). So
a step that is refused can be struck out of a script, and what comes of all other steps stays the
same (`Session.keepsOut`).

Two sessions may agree but for a timeline that is known to one of them only (`Session.Agree`). Here
each of them agrees with the other (`Session.Twins`), the numbers of steps being translated in both
directions, and so their reports are equal up to these numbers.
-/

namespace CommandTimelines

open Host Script Operator Text

/-- A report of a step, where steps have other numbers. -/
def Report.renumber (ρ : Nat → Nat) (report : Report) : Report :=
  { report with answers := report.answers.map fun (ticket, reply) => (ticket.renumber ρ, reply) }

/-- Reports that agree are equal up to the numbers of steps if they have the same result. -/
theorem Report.Agree.eq_renumber {ρ : Nat → Nat} {s : Server} {step : Step}
    {report report' : Report} (h : Report.Agree ρ s step report report')
    (hresult : report.result = report'.result) :
  report = report'.renumber ρ
  := by
  obtain ⟨result, time, calls, events, answers, notes⟩ := report
  obtain ⟨-, rfl, rfl, rfl, rfl, rfl⟩ := h
  obtain rfl := hresult
  rfl

/-! ### Requests -/

theorem Operator.Request.ofArgs_show {word : String} (h : lower word = "show")
    (rest : List String) :
  ofArgs (word :: rest) = .list
  := by
  cases rest <;> rw [ofArgs, if_pos h]

namespace Server

variable (s : Server)

/-- `s.OnlyTells ticket t`: one server comes from the other by notes, and by answers to a ticket. -/
def OnlyTells (ticket : Ticket) (t : Server) : Prop :=
  ∃ facts : List Fact, (∀ fact ∈ facts, fact.IsAside ticket) ∧
    t = { s with journal := s.journalWith facts }

theorem onlyTells_answer (ticket : Ticket) (reply : Reply) :
  s.OnlyTells ticket (s.answer ticket reply)
  := by
  refine ⟨[.answered ticket reply], ?_, rfl⟩
  intro fact hfact
  obtain rfl := List.mem_singleton.mp hfact
  exact .answered reply

/-- What is noted and answered where an actor may not use a file. -/
def refusal (ticket : Ticket) (actor : Actor) (file : String) : List Fact :=
  [.noted (.denied actor.name file), .answered ticket (.feedback noAccess)]

theorem refuse_eq (ticket : Ticket) (actor : Actor) (file : String) :
  s.refuse ticket actor file = { s with journal := s.journalWith (refusal ticket actor file) }
  := rfl

theorem onlyTells_refuse (ticket : Ticket) (actor : Actor) (file : String) :
  s.OnlyTells ticket (s.refuse ticket actor file)
  := by
  refine ⟨refusal ticket actor file, ?_, s.refuse_eq ticket actor file⟩
  intro fact hfact
  simp only [refusal, List.mem_cons, List.not_mem_nil, or_false] at hfact
  obtain rfl | rfl := hfact
  · exact .noted _
  · exact .answered _

/-- Whatever names a file that the actor may not use is refused, unless it asks for the list. -/
theorem execute_of_not_mayUse {actor : Actor} {word file : String} (hword : lower word ≠ "show")
    (hmay : Permission.mayUse actor file = false) (ticket : Ticket) (files : Files)
    (args : List String) :
  s.execute ticket files actor (word :: file :: args) = s.refuse ticket actor file
  := by
  rw [execute_file hword, hmay]
  rfl

/-- A request leaves notes and an answer, or it starts or stops a file that the actor may use. -/
theorem execute_cases (ticket : Ticket) (files : Files) (actor : Actor) (args : List String) :
  s.OnlyTells ticket (s.execute ticket files actor args) ∨
  ∃ word file rest, args = word :: file :: rest ∧ (lower word = "start" ∨ lower word = "stop") ∧
    Permission.mayUse actor file = true
  := by
  -- What names no file is answered without anything else.
  have hnone : ∀ {request : Request}, Request.ofArgs args = request →
      request = .list ∨ request = .unclear none →
      s.OnlyTells ticket (s.execute ticket files actor args) := by
    rintro request hrequest (rfl | rfl)
    · simp only [execute, hrequest]
      exact s.onlyTells_answer ticket _
    · simp only [execute, hrequest]
      exact s.onlyTells_answer ticket _
  cases args with
  | nil => exact .inl (hnone rfl (.inr rfl))
  | cons word rest =>
    by_cases hshow : lower word = "show"
    · exact .inl (hnone (Request.ofArgs_show hshow rest) (.inl rfl))
    · cases rest with
      | nil => exact .inl (hnone (by rw [Request.ofArgs, if_neg hshow]) (.inr rfl))
      | cons file rest =>
        cases hmay : Permission.mayUse actor file with
        | false =>
          left
          rw [s.execute_of_not_mayUse hshow hmay]
          exact s.onlyTells_refuse ticket actor file
        | true =>
          by_cases hstart : lower word = "start"
          · exact .inr ⟨word, file, rest, rfl, .inl hstart, hmay⟩
          · by_cases hstop : lower word = "stop"
            · exact .inr ⟨word, file, rest, rfl, .inr hstop, hmay⟩
            · left
              rw [execute_file hshow, hmay, Request.ofArgs, if_neg hshow, if_neg hstart,
                if_neg hstop]
              exact s.onlyTells_answer ticket _

/-- What is written to a journal is of no account to anything that follows. -/
theorem Agree.of_journal {ρ : Nat → Nat} {s : Server}
    (hpending : s.pending = s.pending.map (·.renumber ρ)) (journal : List Entry) :
  Agree ρ journal s.journal { s with journal } s
  := { Agree.self hpending with journal := ⟨[], rfl, rfl⟩ }

end Server

namespace Session

/-! ### Sessions that agree both ways -/

/-- The numbers that the steps of a script get if the step with the number `k` is taken out. -/
def closeUp (k n : Nat) : Nat := if n ≤ k then n else n - 1

theorem closeUp_of_lt {k n : Nat} (h : n < k) :
  closeUp k n = n
  := if_pos h.le

theorem closeUp_add (k i : Nat) :
  closeUp k (k + 1 + i) = k + i
  := by
  rw [closeUp, if_neg (by omega)]
  omega

/-- `Twins ρ ρ' session session'`: each of the sessions agrees with the other one, where `ρ` and
`ρ'` translate the numbers of steps. -/
structure Twins (ρ ρ' : Nat → Nat) (session session' : Session) : Prop where
  there : ∃ base base', Agree ρ base base' session session'
  back : ∃ base base', Agree ρ' base base' session' session

namespace Twins

variable {ρ ρ' : Nat → Nat} {session session' : Session}

theorem of_journal {journal : List Entry}
    (hreachable : Reachable (session.withServer { session.server with journal }))
    (hreachable' : session.Reachable)
    (hpending : session.server.pending = session.server.pending.map (·.renumber ρ))
    (hpending' : session.server.pending = session.server.pending.map (·.renumber ρ')) :
  Twins ρ ρ' (session.withServer { session.server with journal }) session
  := by
  have hback : session.server.Agree ρ' session.server.journal journal
      { session.server with journal } :=
    { Server.Agree.self hpending' with journal := ⟨[], rfl, rfl⟩ }
  constructor
  · exact ⟨_, _, hreachable, hreachable', rfl, .of_journal hpending journal⟩
  · exact ⟨_, _, hreachable', hreachable, rfl, hback⟩

theorem after (h : Twins ρ ρ' session session') {index index' : Nat} (hindex : ρ index' = index)
    (hindex' : ρ' index = index') (step : Step) :
  Twins ρ ρ' (session.after index step) (session'.after index' step)
  := by
  obtain ⟨⟨base, base', hthere⟩, back, back', hback⟩ := h
  exact ⟨⟨base, base', hthere.after hindex step⟩, back, back', hback.after hindex' step⟩

/-- A timeline is known to both sessions or to none. -/
theorem view?_eq (h : Twins ρ ρ' session session') (file : String) :
  session.view? file = session'.view? file
  := by
  obtain ⟨⟨base, base', hthere⟩, back, back', hback⟩ := h
  have hview := hthere.view? file
  generalize hleft : session.view? file = left at hview ⊢
  generalize hright : session'.view? file = right at hview ⊢
  cases hview with
  | same => rfl
  | @unstarted _ key hkey =>
    rw [Session.view?, hkey, Option.map_eq_some_iff] at hleft
    rw [Session.view?, hkey, Option.map_eq_none_iff] at hright
    obtain ⟨t, ht, -⟩ := hleft
    have hknown := hback.server.known key (Option.isSome_iff_exists.mpr ⟨t, ht⟩)
    rw [Option.bind_some] at hright
    rw [hright] at hknown
    cases hknown

theorem report_eq (hρ : StrictMono ρ) (h : Twins ρ ρ' session session') {index index' : Nat}
    (hindex : ρ index' = index) (step : Step) :
  session.report index step = (session'.report index' step).renumber ρ
  := by
  have hview := h.view?_eq
  obtain ⟨⟨base, base', hthere⟩, -⟩ := h
  have hreport := hthere.report hρ hindex step
  apply hreport.eq_renumber
  have hagree := hreport.result
  cases step with
  | state file => exact congrArg Result.state (hview file)
  | _ =>
    generalize (session.report index _).result = left at hagree ⊢
    generalize (session'.report index' _).result = right at hagree ⊢
    cases hagree
    rfl

/-- What comes of steps is the same for both, but for the numbers of the steps. -/
theorem reportsFrom_eq (hρ : StrictMono ρ) (steps : List Step) :
  ∀ {session session' : Session} {index index' : Nat}, Twins ρ ρ' session session' →
    (∀ i, ρ (index' + i) = index + i) → (∀ i, ρ' (index + i) = index' + i) →
    session.reportsFrom index steps
      = (session'.reportsFrom index' steps).map (·.renumber ρ)
  := by
  induction steps with
  | nil =>
    intro session session' index index' h hindex hindex'
    rfl
  | cons step rest ih =>
    intro session session' index index' h hindex hindex'
    have hfirst : session.report index step = (session'.report index' step).renumber ρ :=
      h.report_eq hρ (hindex 0) step
    have hafter : Twins ρ ρ' (session.after index step) (session'.after index' step) :=
      h.after (hindex 0) (hindex' 0) step
    rw [Session.reportsFrom, Session.reportsFrom, List.map_cons, hfirst, ih hafter]
    · intro i
      rw [Nat.add_assoc, hindex, Nat.add_assoc]
    · intro i
      rw [Nat.add_assoc, hindex', Nat.add_assoc]

end Twins

/-! ### Steps that are refused -/

section

variable {session : Session} {actor : Actor} {word file : String} (hword : lower word ≠ "show")
  (hmay : Permission.mayUse actor file = false) (index : Nat) (args : List String)
include hword hmay

/-- The session after a refusal, in which nothing has happened but that. -/
theorem perform_refused :
  session.perform index (.execute actor (word :: file :: args))
    = (session.withServer { session.server with
        journal := session.server.journalWith (Server.refusal ⟨index, ""⟩ actor file) }, .none)
  := by
  simp only [perform, Server.execute_of_not_mayUse _ hword hmay, Server.refuse_eq]

/-- Where nothing can move, nothing follows from a refusal. -/
theorem after_refused (hreachable : session.Reachable) (hmoves : session.server.moves = []) :
  session.after index (.execute actor (word :: file :: args))
    = session.withServer { session.server with
        journal := session.server.journalWith (Server.refusal ⟨index, ""⟩ actor file) }
  := by
  have hrefused : session.perform index (.execute actor (word :: file :: args)) = _ :=
    perform_refused hword hmay index args
  have hmoves' :
      (session.perform index (.execute actor (word :: file :: args))).1.server.moves = [] := by
    rw [hrefused]
    exact hmoves
  rw [hreachable.after_eq_perform rfl hmoves', hrefused]

/-- What comes of a refusal where nothing can move: an answer that tells nothing, and a note. -/
theorem report_refused (hreachable : session.Reachable) (hmoves : session.server.moves = []) :
  session.report index (.execute actor (word :: file :: args))
    = { result := .none, time := session.server.clock, calls := [], events := ⟨0, []⟩
        answers := [(⟨index, ""⟩, .feedback noAccess)], notes := [.denied actor.name file] }
  := by
  have hafter := after_refused hword hmay index args hreachable hmoves
  have hentries : since session.server.journal.length
      (session.after index (.execute actor (word :: file :: args))).server.journal
        = (Server.refusal ⟨index, ""⟩ actor file).map (Entry.mk session.server.clock) := by
    rw [hafter]
    exact (since_append _ _).trans (List.reverse_reverse _)
  have hreceived : ∀ capacity, received capacity (.execute actor (word :: file :: args))
      ((Server.refusal ⟨index, ""⟩ actor file).map (Entry.mk session.server.clock)) = ⟨0, []⟩ := by
    intro capacity
    simp [received, receive, Server.refusal, Entry.event?]
  rw [report, hentries, hafter, perform_refused hword hmay, hreceived]
  rfl

/-- Whatever happens after a refusal, and in whatever order, it comes to what it comes to without
it. -/
theorem happens_refused (hreachable : session.Reachable) (xs : List Happening) :
  let refused := session.happen (.perform index (.execute actor (word :: file :: args)))
  ∃ later, (xs.foldl happen refused).server.journal = later ++ refused.server.journal ∧
    (xs.foldl happen session).server.journal = later ++ session.server.journal
  := by
  intro refused
  have hrefused : refused = session.withServer { session.server with
      journal := session.server.journalWith (Server.refusal ⟨index, ""⟩ actor file) } :=
    congrArg Prod.fst (perform_refused hword hmay index args)
  have hreachable' : refused.Reachable := hreachable.happen _
  have hpending : session.server.pending = session.server.pending.map (·.renumber id) := by
    simp
  rw [hrefused] at hreachable' ⊢
  have hagree : Agree id _ _ _ session :=
    ⟨hreachable', hreachable, rfl, Server.Agree.of_journal hpending _⟩
  obtain ⟨later, hleft, hright⟩ := (Agree.happens xs hagree).server.journal
  simp only [Happening.renumber_id, Entry.renumber_id, List.map_id'] at hleft
  exact ⟨later, hleft, hright⟩

/-- What comes of the steps after a refusal is what comes of them without it, but for the numbers of
the steps. -/
theorem reportsFrom_refused (hreachable : session.Reachable) (hmoves : session.server.moves = [])
    (hpending : session.server.pending = session.server.pending.map (·.renumber (skip index)))
    (hpending' :
      session.server.pending = session.server.pending.map (·.renumber (closeUp index)))
    (after : List Step) :
  (session.after index (.execute actor (word :: file :: args))).reportsFrom (index + 1) after
    = (session.reportsFrom index after).map (·.renumber (skip index))
  := by
  have hreachable' := hreachable.after index (.execute actor (word :: file :: args))
  rw [after_refused hword hmay index args hreachable hmoves] at hreachable' ⊢
  have htwins := Twins.of_journal hreachable' hreachable hpending hpending'
  exact htwins.reportsFrom_eq (skip_strictMono index) after (skip_add index) (closeUp_add index)

end

/-- An operator who may not use a file changes and learns nothing. Whatever an actor asks for in any
server, it leaves nothing but notes and its own answer, unless the actor starts or stops a file that
they may use. And for a file that they may not use, whatever they ask for but the list:

* the same is noted and answered in every server, whatever files there are;
* whatever happens then, and in whatever order, the same comes about as if they had not asked;
* a script comes to the same without the step that asks for it, but for the numbers of the steps. -/
theorem keepsOut (actor : Actor) :
  (∀ (s : Server) (ticket : Ticket) (files : Files) (args : List String),
    s.OnlyTells ticket (s.execute ticket files actor args) ∨
    ∃ word file rest, args = word :: file :: rest ∧ (lower word = "start" ∨ lower word = "stop") ∧
      Permission.mayUse actor file = true) ∧
  ∀ (word file : String) (rest : List String), lower word ≠ "show" →
    Permission.mayUse actor file = false →
    (∀ (s : Server) (ticket : Ticket) (files : Files),
      s.execute ticket files actor (word :: file :: rest)
        = (s.log (.denied actor.name file)).answer ticket (.feedback noAccess)) ∧
    (∀ {session : Session}, session.Reachable → ∀ (index : Nat) (xs : List Happening),
      let refused := session.happen (.perform index (.execute actor (word :: file :: rest)))
      ∃ later, (xs.foldl happen refused).server.journal = later ++ refused.server.journal ∧
        (xs.foldl happen session).server.journal = later ++ session.server.journal) ∧
    ∀ (files : Files) (settings : Settings) (commands : List Command) (awaiting : List Awaiting)
      (before after : List Step),
      let new : Session := { files, server := { settings, commands, awaiting } }
      let k := before.length
      let report : Report :=
        { result := .none, time := (new.run before).server.clock, calls := [], events := ⟨0, []⟩
          answers := [(⟨k, ""⟩, .feedback noAccess)], notes := [.denied actor.name file] }
      ∃ later, new.reports (before ++ after) = new.reports before ++ later ∧
        new.reports (before ++ .execute actor (word :: file :: rest) :: after)
          = new.reports before ++ report :: later.map (·.renumber (skip k))
  := by
  refine ⟨fun s ticket files args => s.execute_cases ticket files actor args, ?_⟩
  intro word file rest hword hmay
  refine ⟨?_, ?_, ?_⟩
  · intro s ticket files
    rw [s.execute_of_not_mayUse hword hmay, Server.refuse]
  · intro session hreachable index xs
    exact happens_refused hword hmay index rest hreachable xs
  · intro files settings commands awaiting before after new k report
    have hnew : new.Reachable := .new files settings commands awaiting
    have hreachable : (new.run before).Reachable := hnew.run before
    have hmoves : (new.run before).server.moves = [] := hnew.moves_runFrom before 0 rfl
    -- The requests that wait come from earlier steps, and these keep their numbers.
    have hpending := (Agree.run (ρ := skip k) files settings commands awaiting before
      fun i hi => skip_of_lt hi).server.pending
    have hpending' := (Agree.run (ρ := closeUp k) files settings commands awaiting before
      fun i hi => closeUp_of_lt hi).server.pending
    have hreport : (new.run before).report k (.execute actor (word :: file :: rest)) = report :=
      report_refused hword hmay k rest hreachable hmoves
    have hlater :=
      reportsFrom_refused hword hmay k rest hreachable hmoves hpending hpending' after
    have hsplit : ∀ steps, new.reports (before ++ steps)
        = new.reports before ++ (new.run before).reportsFrom k steps := by
      intro steps
      rw [reports, reportsFrom_append, Nat.zero_add]
      rfl
    use (new.run before).reportsFrom k after, hsplit after
    rw [hsplit, Session.reportsFrom, hreport, hlater]

/-- A player asks to stop a running timeline that is not open to them, in letters of any case. -/
theorem keepsOut_of_boss :
  let player : Actor := .player "alice" ["timeline.use-other"]
  let new : Session := { files := .ofList [("timelines/boss", .file (.text "#wait 5"))] }
  let before : List Step := [.start "boss" []]
  let refused : Step := .execute player ["StOp", "boss", "now"]
  let report : Report :=
    { result := .none, time := (new.run before).server.clock, calls := [], events := ⟨0, []⟩
      answers := [(⟨before.length, ""⟩, .feedback noAccess)], notes := [.denied "alice" "boss"] }
  Permission.mayUse player "boss" = false ∧
  ∃ later, new.reports (before ++ [.stop "boss"]) = new.reports before ++ later ∧
    new.reports (before ++ [refused, .stop "boss"])
      = new.reports before ++ report :: later.map (·.renumber (skip before.length))
  := by
  intro player new before refused report
  have hword : lower "StOp" ≠ "show" := by decide +kernel
  have hmay : Permission.mayUse player "boss" = false := by decide +kernel
  obtain ⟨-, -, hstrike⟩ := (keepsOut player).2 "StOp" "boss" ["now"] hword hmay
  exact ⟨hmay, hstrike new.files {} [] [] before [.stop "boss"]⟩

end Session

end CommandTimelines
