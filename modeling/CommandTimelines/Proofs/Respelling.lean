import CommandTimelines.Proofs.Interleaving
import CommandTimelines.Proofs.Readdressing
import CommandTimelines.Proofs.Sorting
import CommandTimelines.Proofs.Starting

/-!
# One file spelled in several ways

A timeline is known under the identifier of its file (`Path.identifier`), and a request that names
the file sees nothing else of how it is spelled. So the files that the steps of a script name may
be spelled otherwise: whatever comes of the script stays the same, except that an answer names the
file as its step does (`Session.respells`). And what a request is about is a run of the timeline
with the identifier of its file, so that requests with different identifiers are about different
runs (`Server.Addresses.identifier`).
-/

namespace CommandTimelines

open Host Script Text

/-! ### Identifiers -/

/-- The spelling under which a file's timeline is known, or the error if there is none. -/
def Path.identifier (file : String) : Except TimelineError String :=
  match Path.key? file with
  | none => .error (.invalidPath file)
  | some key => .ok key

/-- Files have the same identifier if they are spelled the same or are known under the same key. -/
theorem Path.identifier_eq_iff {file file' : String} :
  identifier file = identifier file' ↔
    file = file' ∨ ∃ key, key? file = some key ∧ key? file' = some key
  := by
  rw [identifier, identifier]
  constructor
  · intro h
    cases hkey : key? file with
    | none =>
      cases hkey' : key? file' with
      | none =>
        simp only [hkey, hkey', Except.error.injEq, TimelineError.invalidPath.injEq] at h
        exact .inl h
      | some key' => simp [hkey, hkey'] at h
    | some key =>
      cases hkey' : key? file' with
      | none => simp [hkey, hkey'] at h
      | some key' =>
        simp only [hkey, hkey', Except.ok.injEq] at h
        exact .inr ⟨key, rfl, by rw [h]⟩
  · rintro (rfl | ⟨key, hkey, hkey'⟩)
    · rfl
    · rw [hkey, hkey']

section

variable {file file' : String} (h : Path.identifier file = Path.identifier file')

include h

/-! ### What requests see of a file -/

theorem Path.key?_eq_of_identifier :
  key? file = key? file'
  := by
  rcases identifier_eq_iff.mp h with rfl | ⟨key, hkey, hkey'⟩
  · rfl
  · rw [hkey, hkey']

theorem Opening.read_eq_of_identifier (root : String) (files : Files) (args : List String) :
  read root files file args = read root files file' args
  := by
  rcases Path.identifier_eq_iff.mp h with rfl | ⟨key, hkey, hkey'⟩
  · rfl
  · simp only [read, hkey, hkey']

theorem Server.start_eq_of_identifier (s : Server) (files : Files) (args : List String) :
  s.start files file args = s.start files file' args
  := by
  rw [start, start, Opening.read_eq_of_identifier h]

theorem Server.stop_eq_of_identifier (s : Server) (ticket : Ticket) (asker : Asker) :
  s.stop ticket asker file = s.stop ticket asker file'
  := by
  rcases Path.identifier_eq_iff.mp h with rfl | ⟨key, hkey, hkey'⟩
  · rfl
  · simp only [stop, hkey, hkey']

theorem Server.awaitEnd?_eq_of_identifier (s : Server) (ticket : Ticket) :
  s.awaitEnd? ticket file = s.awaitEnd? ticket file'
  := by
  rw [awaitEnd?, awaitEnd?, Path.key?_eq_of_identifier h]

theorem Session.view?_eq_of_identifier (session : Session) :
  session.view? file = session.view? file'
  := by
  rw [view?, view?, Path.key?_eq_of_identifier h]

end

/-! ### Steps spelled otherwise -/

/-- Steps that are the same, but may spell the file otherwise that they name. -/
inductive Step.Respelled : Step → Step → Prop
  | same (step : Step) : Respelled step step
  | start {file file' : String} (h : Path.identifier file = Path.identifier file')
      (args : List String) :
      Respelled (.start file args) (.start file' args)
  | startTwice {file file' : String} (h : Path.identifier file = Path.identifier file')
      (args : List String) :
      Respelled (.startTwice file args) (.startTwice file' args)
  | stop {file file' : String} (h : Path.identifier file = Path.identifier file') :
      Respelled (.stop file) (.stop file')
  | finished {file file' : String} (h : Path.identifier file = Path.identifier file') :
      Respelled (.finished file) (.finished file')
  | state {file file' : String} (h : Path.identifier file = Path.identifier file') :
      Respelled (.state file) (.state file')

/-- The file that the answer to a step names. -/
def Step.addressee : Step → String
  | .stop file => file
  | .finished file => file
  | _ => ""

/-- The file that the answer to the step at a place of a script names. -/
def addresseeAt (steps : List Step) (i : Nat) : String := (steps[i]?.map Step.addressee).getD ""

/-- The ticket with the file that the answer to its step names in a script. -/
def Ticket.addressedIn (steps : List Step) (ticket : Ticket) : Ticket :=
  match ticket.step with
  | none => ticket
  | some n => ⟨n, addresseeAt steps n⟩

/-- A report whose answers are addressed otherwise. -/
def Report.readdress (τ : Ticket → Ticket) (report : Report) : Report :=
  { report with answers := report.answers.map fun (ticket, reply) => (τ ticket, reply) }

/-- Happenings that are the same, but may spell the file otherwise that a step names. `τ` puts the
tickets of the second one in place of those of the first one. -/
inductive Happening.Respelled (τ : Ticket → Ticket) : Happening → Happening → Prop
  | perform {step step' : Step} {index : Nat} (h : step.Respelled step')
      (haddressee : τ ⟨index, step.addressee⟩ = ⟨index, step'.addressee⟩) :
      Respelled τ (.perform index step) (.perform index step')
  | commit (opening : Opening) : Respelled τ (.commit opening) (.commit opening)
  | commitFor (ticket : Ticket) (file : String) (opening : Opening) :
      Respelled τ (.commitFor ticket file opening) (.commitFor (τ ticket) file opening)
  | stopEach (ticket : Ticket) (ids : List RunId) :
      Respelled τ (.stopEach ticket ids) (.stopEach (τ ticket) ids)
  | move (move : Server.Move) : Respelled τ (.move move) (.move move)
  | pass (milliseconds : Nat) : Respelled τ (.pass milliseconds) (.pass milliseconds)

namespace Session

/-- The session with other tickets. -/
def readdress (τ : Ticket → Ticket) (session : Session) : Session :=
  session.withServer (session.server.readdress τ)

section

variable {τ : Ticket → Ticket} (hnone : ∀ file, τ ⟨none, file⟩ = ⟨none, file⟩)
  (session : Session)

include hnone

/-- A step does the same to sessions with other tickets. -/
theorem perform_readdress {index : Nat} {step : Step}
    (haddressee : τ ⟨index, step.addressee⟩ = ⟨index, step.addressee⟩) :
  (session.readdress τ).perform index step
    = ((session.perform index step).1.readdress τ, (session.perform index step).2)
  := by
  cases step with
  | start file args =>
    simp only [perform, readdress, withServer, Server.start_readdress]
    rfl
  | startTwice file args =>
    have hsettings : (session.readdress τ).server.settings = session.server.settings := rfl
    simp only [perform, startTwice, hsettings]
    cases hread : Opening.read session.server.settings.root session.files file args with
    | error error =>
      simp only [readdress, withServer, hread]
    | ok o =>
      simp only [readdress, withServer, hread, Server.commit_readdress]
      rfl
  | stop file =>
    have hstop := session.server.stop_readdress τ ⟨index, file⟩ .program file
    rw [show τ ⟨index, file⟩ = ⟨index, file⟩ from haddressee] at hstop
    simp only [perform, readdress, withServer, hstop]
  | stopAll =>
    have hstop := session.server.stopEach_readdress τ ⟨index, ""⟩ session.server.currentRuns
    rw [show τ ⟨index, ""⟩ = ⟨index, ""⟩ from haddressee] at hstop
    exact congrArg (fun server => (session.withServer server, Result.none)) hstop
  | finished file =>
    have hawait := session.server.awaitEnd?_readdress τ ⟨index, file⟩ file
    rw [show τ ⟨index, file⟩ = ⟨index, file⟩ from haddressee] at hawait
    simp only [perform, readdress, withServer, hawait]
    cases session.server.awaitEnd? ⟨index, file⟩ file <;> rfl
  | execute actor args =>
    have hexecute := session.server.execute_readdress τ ⟨index, ""⟩ session.files actor args
    rw [show τ ⟨index, ""⟩ = ⟨index, ""⟩ from haddressee] at hexecute
    simp only [perform, readdress, withServer, hexecute]
  | call name invocation =>
    have hcall := Server.callEach_readdress τ hnone invocation
      (Command.allNamed session.server.commands name) session.server
    have hcommands : (session.readdress τ).server.commands = session.server.commands := rfl
    simp only [perform, hcommands]
    simp only [readdress, withServer, hcall]
  | respond key invocation =>
    have hrespond := session.server.respond?_readdress τ hnone none key invocation
    simp only [perform, readdress, withServer, hrespond]
    cases session.server.respond? none key invocation <;> rfl
  | _ => rfl

/-- A step that spells its file otherwise does the same, but for the tickets. -/
theorem perform_respelled {index : Nat} {step step' : Step} (h : step.Respelled step')
    (haddressee : τ ⟨index, step.addressee⟩ = ⟨index, step'.addressee⟩) :
  (session.readdress τ).perform index step'
    = ((session.perform index step).1.readdress τ, (session.perform index step).2)
  := by
  cases h with
  | same => exact session.perform_readdress hnone haddressee
  | start hfile args =>
    rw [← session.perform_readdress hnone haddressee, perform, perform,
      Server.start_eq_of_identifier hfile]
  | startTwice hfile args =>
    rw [← session.perform_readdress hnone haddressee, perform, perform, startTwice, startTwice,
      Opening.read_eq_of_identifier hfile]
  | @stop file file' hfile =>
    have hstop := session.server.stop_readdress τ ⟨index, file⟩ .program file
    rw [show τ ⟨index, file⟩ = ⟨index, file'⟩ from haddressee,
      Server.stop_eq_of_identifier hfile] at hstop
    simp only [perform, readdress, withServer, hstop]
  | @finished file file' hfile =>
    have hawait := session.server.awaitEnd?_readdress τ ⟨index, file⟩ file
    rw [show τ ⟨index, file⟩ = ⟨index, file'⟩ from haddressee,
      Server.awaitEnd?_eq_of_identifier hfile] at hawait
    simp only [perform, readdress, withServer, hawait]
    cases session.server.awaitEnd? ⟨index, file⟩ file <;> rfl
  | state hfile =>
    rw [← session.perform_readdress hnone haddressee, perform, perform,
      view?_eq_of_identifier hfile]

/-- Whatever happens, only the tickets are others. -/
theorem happen_respelled {x x' : Happening} (h : x.Respelled τ x') :
  (session.readdress τ).happen x' = (session.happen x).readdress τ
  := by
  cases h with
  | perform h haddressee =>
    rw [happen, happen, session.perform_respelled hnone h haddressee]
  | commit o => simp only [happen, readdress, withServer, Server.commit_readdress]
  | commitFor ticket file o =>
    simp only [happen, readdress, withServer, Server.commit_readdress, Server.answer_readdress]
  | stopEach ticket ids => simp only [happen, readdress, withServer, Server.stopEach_readdress]
  | move move => simp only [happen, readdress, withServer, Server.step_readdress τ _ hnone]
  | pass milliseconds => rfl

theorem happens_respelled {xs xs' : List Happening}
    (h : List.Forall₂ (Happening.Respelled τ) xs xs') :
  xs'.foldl happen (session.readdress τ) = (xs.foldl happen session).readdress τ
  := by
  induction h generalizing session with
  | nil => rfl
  | cons hfirst _ ih =>
    rw [List.foldl_cons, List.foldl_cons, session.happen_respelled hnone hfirst, ih]

/-! ### Scripts -/

theorem after_respelled {index : Nat} {step step' : Step} (h : step.Respelled step')
    (haddressee : τ ⟨index, step.addressee⟩ = ⟨index, step'.addressee⟩) :
  (session.readdress τ).after index step' = (session.after index step).readdress τ
  := by
  have hduration : step'.duration = step.duration := by
    cases h <;> rfl
  rw [after, after, session.perform_respelled hnone h haddressee, hduration]
  simp only [readdress, withServer, Server.settle_readdress τ _ hnone,
    Server.advance_readdress τ _ hnone]

theorem runFrom_respelled {steps steps' : List Step}
    (h : List.Forall₂ Step.Respelled steps steps') {index : Nat}
    (haddressee : ∀ i : Nat, τ ⟨some (index + i), addresseeAt steps i⟩
      = ⟨some (index + i), addresseeAt steps' i⟩) :
  (session.readdress τ).runFrom index steps' = (session.runFrom index steps).readdress τ
  := by
  induction h generalizing session index with
  | nil => rfl
  | cons hfirst _ ih =>
    have hafter := session.after_respelled hnone hfirst (haddressee 0)
    rw [Nat.add_zero] at hafter
    rw [runFrom, runFrom, hafter]
    apply ih
    intro i
    have hnext := haddressee (i + 1)
    rwa [← Nat.add_assoc, Nat.add_right_comm] at hnext

omit hnone in
/-- What is written to the journal in a step is written to the other one with other tickets. -/
theorem since_readdress (length : Nat) (journal : List Entry) :
  since length (journal.map (·.readdress τ)) = (since length journal).map (·.readdress τ)
  := by
  rw [since, since, List.length_map, List.map_take.symm, List.map_reverse]

omit hnone in
/-- Answers come in the same order if their tickets do. -/
theorem inOrder_readdress {answers : List (Ticket × Reply)}
    (h : ∀ a ∈ answers, ∀ b ∈ answers, (τ a.1).isBefore (τ b.1) = a.1.isBefore b.1) :
  inOrder (answers.map fun (ticket, reply) => (τ ticket, reply))
    = (inOrder answers).map fun (ticket, reply) => (τ ticket, reply)
  := sortBy_map_of_mem h

/-- What comes of a step stays the same, but for the tickets, if the tickets of all answers come in
the same order. -/
theorem report_respelled {index : Nat} {step step' : Step} (h : step.Respelled step')
    (haddressee : τ ⟨index, step.addressee⟩ = ⟨index, step'.addressee⟩)
    (horder : ∀ a ∈ (session.after index step).server.journal.filterMap (·.answer?),
      ∀ b ∈ (session.after index step).server.journal.filterMap (·.answer?),
        (τ a.1).isBefore (τ b.1) = a.1.isBefore b.1) :
  (session.readdress τ).report index step' = (session.report index step).readdress τ
  := by
  have hlength : (session.readdress τ).server.journal.length = session.server.journal.length :=
    List.length_map _
  have hjournal : ((session.after index step).readdress τ).server.journal
      = (session.after index step).server.journal.map (·.readdress τ) := rfl
  have hreceived : ∀ capacity entries,
      received capacity step' entries = received capacity step entries := by
    intro capacity entries
    cases h <;> rfl
  have hevents : ∀ capacity (entries : List Entry),
      received capacity step (entries.map (·.readdress τ)) = received capacity step entries := by
    intro capacity entries
    simp only [received, List.filterMap_map, Function.comp_def,
      fun entry => (Entry.readdress_views τ entry).2.1]
  rw [report, report, session.perform_respelled hnone h haddressee,
    session.after_respelled hnone h haddressee, hlength, hjournal, since_readdress]
  simp only [Report.readdress, Report.mk.injEq, List.filterMap_map, Function.comp_def, true_and]
  refine ⟨rfl, ?_, ?_, ?_, ?_⟩
  · simp only [fun entry => (Entry.readdress_views τ entry).1]
  · rw [hreceived, hevents]
    rfl
  · simp only [fun entry => (Entry.readdress_views τ entry).2.2.2, ← List.map_filterMap]
    have hmem : ∀ a ∈ (since session.server.journal.length
          (session.after index step).server.journal).filterMap (·.answer?),
        a ∈ (session.after index step).server.journal.filterMap (·.answer?) := by
      intro a ha
      obtain ⟨entry, hentry, hanswer⟩ := List.mem_filterMap.mp ha
      apply List.mem_filterMap.mpr
      exact ⟨entry, List.mem_of_mem_take (List.mem_reverse.mp hentry), hanswer⟩
    apply inOrder_readdress
    intro a ha b hb
    exact horder a (hmem a ha) b (hmem b hb)
  · simp only [fun entry => (Entry.readdress_views τ entry).2.2.1]

/-- What comes of steps stays the same, but for the tickets. The tickets of all requests are such
that `τ₀` leaves them as they are, and `τ` keeps the order of these. -/
theorem reportsFrom_respelled {τ₀ : Ticket → Ticket} (hnone₀ : ∀ file, τ₀ ⟨none, file⟩ = ⟨none, file⟩)
    (horder : ∀ a b, τ₀ a = a → τ₀ b = b → (τ a).isBefore (τ b) = a.isBefore b)
    {steps steps' : List Step} (h : List.Forall₂ Step.Respelled steps steps') {index : Nat}
    (hsession : session.readdress τ₀ = session)
    (haddressee₀ : ∀ i : Nat, τ₀ ⟨some (index + i), addresseeAt steps i⟩
      = ⟨some (index + i), addresseeAt steps i⟩)
    (haddressee : ∀ i : Nat, τ ⟨some (index + i), addresseeAt steps i⟩
      = ⟨some (index + i), addresseeAt steps' i⟩) :
  (session.readdress τ).reportsFrom index steps'
    = (session.reportsFrom index steps).map (·.readdress τ)
  := by
  induction h generalizing session index with
  | nil => rfl
  | @cons step step' rest rest' hfirst _ ih =>
    have hafter := session.after_respelled hnone hfirst (haddressee 0)
    have hafter₀ := session.after_respelled hnone₀ (.same step) (haddressee₀ 0)
    rw [hsession, Nat.add_zero] at hafter₀
    -- The journal stays as it is with the tickets that `τ₀` gives it, so these are its own.
    have hfixed : ∀ a ∈ (session.after index step).server.journal.filterMap (·.answer?),
        τ₀ a.1 = a.1 := by
      intro a ha
      obtain ⟨entry, hentry, hanswer⟩ := List.mem_filterMap.mp ha
      have hjournal : (session.after index step).server.journal.map (·.readdress τ₀)
          = (session.after index step).server.journal.map id := by
        rw [List.map_id]
        exact congrArg (fun session => session.server.journal) hafter₀.symm
      have hself : entry.readdress τ₀ = entry := List.map_inj_left.mp hjournal entry hentry
      have hanswer' := (Entry.readdress_views τ₀ entry).2.2.2
      rw [hself, hanswer] at hanswer'
      exact congrArg Prod.fst (Option.some.inj hanswer').symm
    have hreport := session.report_respelled hnone hfirst (haddressee 0)
      fun a ha b hb => horder a.1 b.1 (hfixed a ha) (hfixed b hb)
    rw [Nat.add_zero] at hafter hreport
    rw [reportsFrom, reportsFrom, List.map_cons, hafter, hreport]
    congr 1
    apply ih _ hafter₀.symm
    · intro i
      have hnext := haddressee₀ (i + 1)
      rwa [← Nat.add_assoc, Nat.add_right_comm] at hnext
    · intro i
      have hnext := haddressee (i + 1)
      rwa [← Nat.add_assoc, Nat.add_right_comm] at hnext

end

end Session

/-! ### What requests are about -/

namespace Server

variable {s t : Server} {id : RunId}

/-- `s.Addresses file t id`: a request that names a file is made of the server `s`, and makes `t` of
it, and the request is about the run `id`. -/
inductive Addresses (s : Server) (file : String) : Server → RunId → Prop
  /-- A start that has read the file sets up the run. -/
  | start {root : String} {files : Files} {args : List String} {o : Opening} {id : RunId}
      (hread : Opening.read root files file args = .ok o) (h : (s.commit o).2 = .ok id) :
      Addresses s file (s.commit o).1 id
  /-- A stop claims the end of the run. -/
  | stop {ticket : Ticket} {asker : Asker} {id : RunId}
      (h : (s.stop ticket asker file).pending = s.pending ++ [.stopping ticket asker id]) :
      Addresses s file (s.stop ticket asker file) id
  /-- A request waits for the end of the run. -/
  | finished {ticket : Ticket} {t : Server} {id : RunId} (hawait : s.awaitEnd? ticket file = some t)
      (h : t.pending = s.pending ++ [.finishing ticket id]) :
      Addresses s file t id
  /-- The run is the one that the file's timeline shows. -/
  | state {t : Timeline} {id : RunId} (ht : (Path.key? file).bind s.timeline? = some t)
      (h : t.current = some id) :
      Addresses s file s id

variable {file : String}

theorem Addresses.changes (h : s.Addresses file t id) :
  Changes s t
  := by
  cases h with
  | start hread h => apply commit_changes
  | stop h => apply stop_changes
  | finished hawait h => exact awaitEnd?_changes s hawait
  | state ht h => exact .refl

/-- A stop that claims the end of a run claims that of the current run of its file. -/
theorem current_of_stop {ticket : Ticket} {asker : Asker}
    (h : (s.stop ticket asker file).pending = s.pending ++ [.stopping ticket asker id]) :
  ∃ key, Path.key? file = some key ∧ s.currentRun? key = some id
  := by
  rw [stop] at h
  split at h
  · simp [answer, record] at h
  · rename_i key hkey
    split at h
    · simp [answer, record] at h
    · rename_i hfound
      obtain ⟨current, hcurrent, hclaimed⟩ := Option.bind_eq_some_iff.mp hfound
      obtain ⟨s', hclaim, heq⟩ := Option.map_eq_some_iff.mp hclaimed
      obtain ⟨rfl, rfl⟩ := Prod.mk.inj heq
      simp only [await, pending_claim? s hclaim, List.append_cancel_left_eq, List.cons.injEq,
        Pending.stopping.injEq, true_and, and_true] at h
      exact ⟨key, hkey, h ▸ hcurrent⟩

/-- What a request is about is a run of the timeline with the identifier of the file that the request
names. -/
theorem Addresses.identifier (h : s.Addresses file t id) (hs : s.Reachable) :
  ∃ key, Path.identifier file = .ok key ∧ t.keyOf? id = some key
  := by
  -- Starts apart, a request is about the current run of its file.
  have hcurrent : ∀ {key}, Path.key? file = some key → s.currentRun? key = some id →
      ∃ key, Path.identifier file = .ok key ∧ s.keyOf? id = some key := by
    intro key hkey hcurrent
    obtain ⟨run, hrun, hrunKey⟩ := hs.kept.key_of_current key id hcurrent
    use key
    simp only [Path.identifier, hkey, keyOf?, hrun, Option.map_some, hrunKey, true_and]
  cases h with
  | @start root files args o id hread h =>
    use o.key
    simp only [Path.identifier, Opening.key_of_read hread, keyOf?_of_commit h, true_and]
  | stop h =>
    have hstop := current_of_stop h
    obtain ⟨key, hkey, hid⟩ := hstop
    obtain ⟨key, hidentifier, hkeyOf⟩ := hcurrent hkey hid
    exact ⟨key, hidentifier, (stop_changes _ _ _ _).keyOf? hkeyOf⟩
  | @finished ticket t id hawait h =>
    obtain ⟨current, hfound, rfl⟩ := Option.map_eq_some_iff.mp hawait
    obtain ⟨key, hkey, hid⟩ := Option.bind_eq_some_iff.mp hfound
    simp only [await, List.append_cancel_left_eq, List.cons.injEq, Pending.finishing.injEq, true_and,
      and_true] at h
    exact hcurrent hkey (h ▸ hid)
  | state ht h =>
    obtain ⟨key, hkey, htimeline⟩ := Option.bind_eq_some_iff.mp ht
    exact hcurrent hkey (by rw [currentRun?, htimeline, Option.bind_some, h])

/-- Requests that name files with different identifiers are about different runs. -/
theorem Addresses.ne_of_identifier_ne {s' t' : Server} {file' : String} {id' : RunId}
    (h : s.Addresses file t id) (hs : s.Reachable) (hchanges : Changes t s')
    (h' : s'.Addresses file' t' id') (hne : Path.identifier file ≠ Path.identifier file') :
  id ≠ id'
  := by
  rintro rfl
  obtain ⟨key, hidentifier, hkey⟩ := h.identifier hs
  obtain ⟨key', hidentifier', hkey'⟩ := h'.identifier ((hs.changes h.changes).changes hchanges)
  have hlater := Changes.keyOf? (hchanges.trans h'.changes) hkey
  obtain rfl := Option.some.inj (hlater.symm.trans hkey')
  exact hne (hidentifier.trans hidentifier'.symm)

end Server

/-! ### Scripts spelled otherwise -/

namespace Ticket

/-- The tickets of answers that name their files as a script does come in the same order if they
name them as another script does. -/
theorem isBefore_addressedIn (steps steps' : List Step) {a b : Ticket}
    (ha : a.addressedIn steps = a) (hb : b.addressedIn steps = b) :
  (a.addressedIn steps').isBefore (b.addressedIn steps') = a.isBefore b
  := by
  obtain ⟨m, file⟩ := a
  obtain ⟨n, file'⟩ := b
  cases m with
  | none => cases n <;> rfl
  | some m =>
    cases n with
    | none => rfl
    | some n =>
      obtain rfl : addresseeAt steps m = file := congrArg Ticket.file ha
      obtain rfl : addresseeAt steps n = file' := congrArg Ticket.file hb
      by_cases hmn : m = n
      · subst hmn
        simp [isBefore, addressedIn]
      · simp [isBefore, addressedIn, beq_false_of_ne hmn]

end Ticket

/-- The files that the steps of a script name may be spelled otherwise, each of them in a way of its
own, if their identifiers stay the same. Then everything stays the same, the reports of all steps
among it, but an answer names the file as its step does. The same holds if everything happens in
any other order. And whatever is done between them, two requests whose files have different
identifiers are about different runs. -/
theorem Session.respells (files : Files) (settings : Settings) (commands : List Command)
    (awaiting : List Awaiting) {steps steps' : List Step}
    (h : List.Forall₂ Step.Respelled steps steps') :
  let new : Session := { files, server := { settings, commands, awaiting } }
  let τ := Ticket.addressedIn steps'
  new.run steps' = (new.run steps).readdress τ ∧
  new.reports steps' = (new.reports steps).map (·.readdress τ) ∧
  (∀ (σ : Ticket → Ticket) (xs xs' : List Happening), (∀ file, σ ⟨none, file⟩ = ⟨none, file⟩) →
    List.Forall₂ (Happening.Respelled σ) xs xs' →
    xs'.foldl happen new = (xs.foldl happen new).readdress σ) ∧
  ∀ {s t s' t' : Server} {file file' : String} {id id' : RunId}, s.Reachable →
    s.Addresses file t id → Server.Changes t s' → s'.Addresses file' t' id' →
    Path.identifier file ≠ Path.identifier file' → id ≠ id'
  := by
  intro new τ
  have hnone : ∀ steps file, Ticket.addressedIn steps ⟨none, file⟩ = ⟨none, file⟩ :=
    fun _ _ => rfl
  have haddressee : ∀ (steps steps' : List Step) (i : Nat),
      Ticket.addressedIn steps' ⟨some (0 + i), addresseeAt steps i⟩
        = ⟨some (0 + i), addresseeAt steps' i⟩ := by
    intro steps steps' i
    simp [Ticket.addressedIn]
  have hnew : ∀ σ, new.readdress σ = new := fun σ => rfl
  refine ⟨?_, ?_, ?_, ?_⟩
  · exact new.runFrom_respelled (hnone steps') h (haddressee steps steps')
  · apply new.reportsFrom_respelled (hnone steps') (hnone steps) _ h (hnew _)
      (haddressee steps steps) (haddressee steps steps')
    intro a b ha hb
    exact Ticket.isBefore_addressedIn steps steps' ha hb
  · intro σ xs xs' hσ hxs
    exact new.happens_respelled hσ hxs
  · intro s t s' t' file file' id id' hs haddresses hchanges haddresses' hne
    exact haddresses.ne_of_identifier_ne hs hchanges haddresses' hne

/-- A timeline that is started, stopped and shown under three spellings of its file, and the same
with one spelling throughout: the answer to the stop names the file as the stop does. -/
theorem Session.respells_of_wait :
  let new : Session := { files := .ofList [("timelines/show", .file (.text "#wait 5"))] }
  let steps : List Step := [.start "./show" [], .stop "show/", .state "show//."]
  let steps' : List Step := [.start "show" [], .stop "show", .state "show"]
  List.Forall₂ Step.Respelled steps steps' ∧
  new.reports steps' = (new.reports steps).map (·.readdress (Ticket.addressedIn steps')) ∧
  (new.reports steps).map (·.answers) = [[], [(⟨some 1, "show/"⟩, .stopped none)], []] ∧
  (new.reports steps').map (·.answers) = [[], [(⟨some 1, "show"⟩, .stopped none)], []]
  := by
  intro new steps steps'
  have hstart : Path.identifier "./show" = Path.identifier "show" := by decide
  have hstop : Path.identifier "show/" = Path.identifier "show" := by decide
  have hstate : Path.identifier "show//." = Path.identifier "show" := by decide
  have hsteps : List.Forall₂ Step.Respelled steps steps' :=
    .cons (.start hstart []) (.cons (.stop hstop) (.cons (.state hstate) .nil))
  obtain ⟨-, hreports, -, -⟩ := Session.respells new.files {} [] [] hsteps
  refine ⟨hsteps, hreports, ?_, ?_⟩
  · decide +kernel
  · decide +kernel

end CommandTimelines
