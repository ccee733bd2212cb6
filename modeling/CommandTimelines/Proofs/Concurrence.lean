import CommandTimelines.Proofs.Starting

/-!
# Concurrent starts

A start reads its file and later, in one instant, sets up its run. Here any number of starts,
each on its own way from the one to the other, are interleaved with whatever else can happen in
a session: a `Concurrence` is a session together with the starts that have been asked for, and
an `Occurrence` is what can happen next.

Only the second phase of a start sets up a run. So each run comes from one start, which has read
the text and brought the arguments (`Concurrence.exists_setUpBy`), and as many starts of a
timeline have succeeded as there are runs of it (`Concurrence.successes_eq`). A start that finds
its timeline idle, and whose text and clean-up compile, wins over all others until its run has
ended (`Concurrence.winner`). What there is to say is put together in `Concurrence.serialises`.
-/

namespace CommandTimelines

open Host Script Operator

/-! ### Starts and what else happens -/

/-- How far a start has come. -/
inductive Stage where
  /-- Its file has not been read. -/
  | called
  /-- Its file has been read. -/
  | opened (opening : Opening)
  /-- It has a result: the number of its run, or why there is none. -/
  | returned (result : Except TimelineError RunId)

/-- A start that has been asked for. -/
structure StartCall where
  /-- The request of an operator that the start answers, if there is one. -/
  ticket : Option Ticket
  file : String
  args : List String
  stage : Stage := .called

namespace StartCall

variable (call : StartCall)

/-- The start after it has come to a result. -/
def returning (result : Except TimelineError RunId) : StartCall :=
  { call with stage := .returned result }

/-- The server after the operator who asked for the start has been told of its result. -/
def answering (result : Except TimelineError RunId) (s : Server) : Server :=
  match call.ticket with
  | none => s
  | some ticket =>
    s.answer ticket (.feedback (startFeedback call.file (Server.errorOf? result)))

/-- Whether the start is one of a timeline, and has succeeded. -/
def succeeded (key : String) : Bool :=
  match call.stage with
  | .returned (.ok _) => Path.key? call.file == some key
  | _ => false

end StartCall

/-- Whether what happens in a session sets up a run, or tries to. -/
def Happening.isStart : Happening → Bool
  | .perform _ (.start _ _) => true
  | .perform _ (.startTwice _ _) => true
  | .perform _ (.execute _ args) =>
    match Request.ofArgs args with
    | .start _ _ => true
    | _ => false
  | .commit _ => true
  | .commitFor _ _ _ => true
  | _ => false

/-- What can happen next to a session and the starts that have been asked for. -/
inductive Occurrence where
  /-- A start is asked for. -/
  | call (ticket : Option Ticket) (file : String) (args : List String)
  /-- The start at a position reads its file. -/
  | read (i : Nat)
  /-- The start at a position, whose file has been read, sets up its run. -/
  | commit (i : Nat)
  /-- Something else happens in the session. -/
  | other (x : Happening) (h : x.isStart = false)

/-- A session and the starts that have been asked for. -/
structure Concurrence where
  session : Session := {}
  calls : List StartCall := []

namespace Concurrence

variable (c : Concurrence)

/-- After the start at a position has read its file, or failed to. -/
def read (i : Nat) (call : StartCall) : Concurrence :=
  match Opening.read c.session.server.settings.root c.session.files call.file call.args with
  | .error error =>
    { session := c.session.withServer (call.answering (.error error) c.session.server)
      calls := c.calls.set i (call.returning (.error error)) }
  | .ok o => { c with calls := c.calls.set i { call with stage := .opened o } }

/-- After the start at a position, whose file has been read, has set up its run, or failed
to. -/
def commit (i : Nat) (call : StartCall) (o : Opening) : Concurrence :=
  let (server, result) := c.session.server.commit o
  { session := c.session.withServer (call.answering result server)
    calls := c.calls.set i (call.returning result) }

/-- After something has happened. A start goes on only where it is. -/
def occur : Occurrence → Concurrence
  | .call ticket file args => { c with calls := c.calls ++ [{ ticket, file, args }] }
  | .read i =>
    match c.calls[i]? with
    | some call =>
      match call.stage with
      | .called => c.read i call
      | _ => c
    | none => c
  | .commit i =>
    match c.calls[i]? with
    | some call =>
      match call.stage with
      | .opened o => c.commit i call o
      | _ => c
    | none => c
  | .other x _ => { c with session := c.session.happen x }

/-- After several things have happened. -/
def after (xs : List Occurrence) : Concurrence := xs.foldl occur c

@[simp]
theorem after_nil :
  c.after [] = c
  := rfl

@[simp]
theorem after_append (xs ys : List Occurrence) :
  c.after (xs ++ ys) = (c.after xs).after ys
  := List.foldl_append

@[simp]
theorem after_cons (x : Occurrence) (xs : List Occurrence) :
  c.after (x :: xs) = (c.occur x).after xs
  := rfl

/-! ### What one occurrence can do -/

variable {c}

/-- `Next c x c'`: when `x` happens then `c` becomes `c'`. -/
inductive Next (c : Concurrence) : Occurrence → Concurrence → Prop
  /-- A start is not where it could go on. -/
  | idle (x : Occurrence) : Next c x c
  | call (ticket : Option Ticket) (file : String) (args : List String) :
      Next c (.call ticket file args) { c with calls := c.calls ++ [{ ticket, file, args }] }
  | unread {i : Nat} {call : StartCall} {error : TimelineError} (hi : c.calls[i]? = some call)
      (hstage : call.stage = .called) :
      Next c (.read i)
        { session := c.session.withServer (call.answering (.error error) c.session.server)
          calls := c.calls.set i (call.returning (.error error)) }
  | read {i : Nat} {call : StartCall} {o : Opening} (hi : c.calls[i]? = some call)
      (hstage : call.stage = .called)
      (hread : Opening.read c.session.server.settings.root c.session.files call.file call.args
        = .ok o) :
      Next c (.read i) { c with calls := c.calls.set i { call with stage := .opened o } }
  | commit {i : Nat} {call : StartCall} {o : Opening} (hi : c.calls[i]? = some call)
      (hstage : call.stage = .opened o) :
      Next c (.commit i) (c.commit i call o)
  | other (x : Happening) (h : x.isStart = false) :
      Next c (.other x h) { c with session := c.session.happen x }

theorem next (c : Concurrence) (x : Occurrence) :
  c.Next x (c.occur x)
  := by
  cases x with
  | call ticket file args => exact .call ticket file args
  | read i =>
    rw [occur]
    split
    · rename_i call hi
      split
      · rename_i hstage
        rw [read]
        split
        · exact .unread hi hstage
        · rename_i o hread
          exact .read hi hstage hread
      · exact .idle _
    · exact .idle _
  | commit i =>
    rw [occur]
    split
    · rename_i call hi
      split
      · rename_i o hstage
        exact .commit hi hstage
      · exact .idle _
    · exact .idle _
  | other x h => exact .other x h

theorem answering_changes (call : StartCall) (result : Except TimelineError RunId) (s : Server) :
  Server.Changes s (call.answering result s)
  := by
  rw [StartCall.answering]
  split
  · apply Relation.ReflTransGen.refl
  · apply Server.answer_changes
    apply Server.stops_startFeedback

theorem Next.changes {c' : Concurrence} {x : Occurrence} (h : c.Next x c') :
  Server.Changes c.session.server c'.session.server
  := by
  cases h with
  | idle x => exact .refl
  | call ticket file args => exact .refl
  | unread hi hstage => apply answering_changes
  | read hi hstage hread => exact .refl
  | commit hi hstage =>
    apply (Server.commit_changes _ _).trans
    apply answering_changes
  | other x hstart => apply Session.happen_changes

theorem after_changes (c : Concurrence) (xs : List Occurrence) :
  Server.Changes c.session.server (c.after xs).session.server
  := by
  induction xs generalizing c with
  | nil => exact .refl
  | cons x xs ih => apply (c.next x).changes.trans (ih _)

end Concurrence

/-- What is no start sets up no run. -/
theorem Session.scripts_happen (session : Session) {x : Happening} (h : x.isStart = false) :
  (session.happen x).server.scripts = session.server.scripts
  := by
  cases x with
  | commit opening => cases h
  | commitFor ticket file opening => cases h
  | stopEach ticket ids => rfl
  | move move => exact Server.steady_scripts.step _ (fun _ _ => rfl) move
  | pass milliseconds => rfl
  | perform index step =>
    simp only [Session.happen]
    cases step with
    | start file args => cases h
    | startTwice file args => cases h
    | stop file => apply Server.steady_scripts.stop
    | finished file =>
      simp only [Session.perform]
      split
      · rfl
      · rename_i server haway
        obtain ⟨id, -, rfl⟩ := Option.map_eq_some_iff.mp haway
        rfl
    | execute actor args =>
      simp only [Session.perform, Session.withServer, Server.execute]
      split
      · rfl
      · cases hrequest : Request.ofArgs args with
        | start file args => simp [Happening.isStart, hrequest] at h
        | stop file => apply Server.steady_scripts.stop
        | list => rfl
        | unclear file => rfl
    | call name invocation => apply Server.steady_scripts.callEach
    | respond key invocation =>
      simp only [Session.perform]
      split
      · rfl
      · rename_i server outcome hrespond
        apply Server.steady_scripts.respond? _ hrespond
    | _ => rfl

namespace Concurrence

/-! ### Where runs come from -/

/-- A session in which nothing has happened, and no start has been asked for. -/
def new (files : Files) (settings : Settings) (commands : List Command)
    (awaiting : List Awaiting) : Concurrence :=
  { session := { files, server := { settings, commands, awaiting } } }

/-- `ReadBy c xs i call o`: as `xs` happen, the start at a position reads its file. -/
def ReadBy (c : Concurrence) (xs : List Occurrence) (i : Nat) (call : StartCall)
    (o : Opening) : Prop :=
  ∃ before middle, xs = before ++ .read i :: middle ∧
    (c.after before).calls[i]? = some { call with stage := .called } ∧
    Opening.read (c.after before).session.server.settings.root (c.after before).session.files
      call.file call.args = .ok o

/-- `SetUpBy c xs i call o id body cleanUp`: as `xs` happen, the start at a position reads its
file and then sets up a run, of what is compiled of the text that it has read. -/
def SetUpBy (c : Concurrence) (xs : List Occurrence) (i : Nat) (call : StartCall) (o : Opening)
    (id : RunId) (body cleanUp : List Action) : Prop :=
  ∃ before after, xs = before ++ .commit i :: after ∧ c.ReadBy before i call o ∧
    (c.after before).session.server.bodyOf o = .ok body ∧
    (c.after before).session.server.cleanUpOf o = .ok cleanUp ∧
    (c.after xs).calls[i]? = some (call.returning (.ok id))

variable {c : Concurrence} {xs : List Occurrence} {i : Nat} {call : StartCall} {o : Opening}

theorem ReadBy.concat (h : c.ReadBy xs i call o) (x : Occurrence) :
  c.ReadBy (xs ++ [x]) i call o
  := by
  obtain ⟨before, middle, rfl, hcall, hread⟩ := h
  use before, middle ++ [x]
  simp [hcall, hread]

/-- What a start has read is known under the key of its file, and comes with its arguments. -/
theorem ReadBy.key_eq (h : c.ReadBy xs i call o) :
  Path.key? call.file = some o.key ∧ o.args = call.args
  := by
  obtain ⟨before, middle, -, -, hread⟩ := h
  rw [Opening.read] at hread
  split at hread
  · cases hread
  · rename_i key hkey
    split at hread
    · obtain rfl := Except.ok.inj hread
      exact ⟨hkey, rfl⟩
    · cases hread
    · cases hread

/-- A start that has a result goes on no further. -/
theorem Next.calls_of_returned {c' : Concurrence} {x : Occurrence} (h : c.Next x c')
    {result : Except TimelineError RunId} (hi : c.calls[i]? = some call)
    (hstage : call.stage = .returned result) :
  c'.calls[i]? = some call
  := by
  have hset : ∀ j other later, c.calls[j]? = some other → other.stage ≠ .returned result →
      (c.calls.set j later)[i]? = some call := by
    intro j other later hj hother
    rw [List.getElem?_set_ne, hi]
    rintro rfl
    obtain rfl := Option.some.inj (hi.symm.trans hj)
    apply hother hstage
  cases h with
  | idle x => apply hi
  | call ticket file args =>
    rw [List.getElem?_append_left (List.getElem?_eq_some_iff.mp hi).1, hi]
  | unread hj hother => exact hset _ _ _ hj (by simp [hother])
  | read hj hother hread => exact hset _ _ _ hj (by simp [hother])
  | commit hj hother => exact hset _ _ _ hj (by simp [hother])
  | other x hstart => apply hi

theorem calls_of_returned {result : Except TimelineError RunId} (hi : c.calls[i]? = some call)
    (hstage : call.stage = .returned result) (xs : List Occurrence) :
  (c.after xs).calls[i]? = some call
  := by
  induction xs generalizing c with
  | nil => apply hi
  | cons x xs ih => apply ih ((c.next x).calls_of_returned hi hstage)

/-- What is found in a list after another element has been put in a place. -/
theorem of_getElem?_set {α : Type} {xs : List α} {i j : Nat} {x y : α}
    (h : (xs.set j y)[i]? = some x) :
  i = j ∧ x = y ∨ xs[i]? = some x
  := by
  by_cases hij : i = j
  · subst hij
    have hlt : i < xs.length := by simpa using (List.getElem?_eq_some_iff.mp h).1
    rw [List.getElem?_set_self hlt] at h
    exact .inl ⟨rfl, (Option.some.inj h).symm⟩
  · rw [List.getElem?_set_ne (Ne.symm hij)] at h
    exact .inr h

/-- What is found in a list after another element has been put at its end. -/
theorem of_getElem?_concat {α : Type} {xs : List α} {i : Nat} {x y : α}
    (h : (xs ++ [y])[i]? = some x) :
  i = xs.length ∧ x = y ∨ xs[i]? = some x
  := by
  by_cases hi : i = xs.length
  · subst hi
    rw [List.getElem?_concat_length] at h
    exact .inl ⟨rfl, (Option.some.inj h).symm⟩
  · have hlt := (List.getElem?_eq_some_iff.mp h).1
    rw [List.length_append, List.length_singleton] at hlt
    rw [List.getElem?_append_left (by omega)] at h
    exact .inr h

/-- A start whose file has been read has read it. -/
theorem readBy_of_opened (hc : c.calls = []) (xs : List Occurrence) :
  ∀ i call o, (c.after xs).calls[i]? = some call → call.stage = .opened o →
    c.ReadBy xs i call o
  := by
  induction xs using List.reverseRecOn with
  | nil => simp [hc]
  | append_singleton xs x ih =>
    intro i call o hcall hopened
    simp only [after_append, after_cons, after_nil] at hcall
    have hnext := (c.after xs).next x
    generalize (c.after xs).occur x = c' at hnext hcall
    have hold := fun hcall => (ih i call o hcall hopened).concat x
    cases hnext with
    | idle x => apply hold hcall
    | call ticket file args =>
      rcases of_getElem?_concat hcall with ⟨-, rfl⟩ | hcall
      · cases hopened
      · apply hold hcall
    | unread hj hother =>
      rcases of_getElem?_set hcall with ⟨-, rfl⟩ | hcall
      · cases hopened
      · apply hold hcall
    | @read j other o' hj hother hread =>
      rcases of_getElem?_set hcall with ⟨rfl, rfl⟩ | hcall
      · obtain rfl := Stage.opened.inj hopened
        refine ⟨xs, [], rfl, ?_, hread⟩
        rw [hj, ← hother]
      · apply hold hcall
    | commit hj hother =>
      rcases of_getElem?_set hcall with ⟨-, rfl⟩ | hcall
      · cases hopened
      · apply hold hcall
    | other x hstart => apply hold hcall

/-- What is no start sets up no run, and neither does asking for a start or reading its file. -/
theorem Next.scripts_eq {c' : Concurrence} {x : Occurrence} (h : c.Next x c')
    (hx : ∀ i, x ≠ .commit i) :
  c'.session.server.scripts = c.session.server.scripts
  := by
  cases h with
  | commit hi hstage => apply absurd rfl (hx _)
  | unread hi hstage =>
    simp only [Session.withServer, StartCall.answering]
    split <;> rfl
  | other x hstart => apply Session.scripts_happen _ hstart
  | _ => rfl

/-- Telling an operator of the result of a start sets up no run. -/
@[simp]
theorem scripts_commit (c : Concurrence) (i : Nat) (call : StartCall) (o : Opening) :
  (c.commit i call o).session.server.scripts = (c.session.server.commit o).1.scripts
  := by
  simp only [commit, Session.withServer, StartCall.answering]
  split <;> rfl

/-- Each run is set up by one start. -/
theorem exists_setUpBy (hc : c.calls = []) (hruns : c.session.server.runs = [])
    (xs : List Occurrence) :
  ∀ id key body cleanUp, (c.after xs).session.server.scripts[id]? = some (key, body, cleanUp) →
    ∃ i call o, c.SetUpBy xs i call o id body cleanUp ∧ o.key = key
  := by
  induction xs using List.reverseRecOn with
  | nil => simp [Server.scripts, hruns]
  | append_singleton xs x ih =>
    intro id key body cleanUp hid
    simp only [after_append, after_cons, after_nil] at hid
    have hold : (c.after xs).session.server.scripts[id]? = some (key, body, cleanUp) →
        ∃ i call o, c.SetUpBy (xs ++ [x]) i call o id body cleanUp ∧ o.key = key := by
      intro hold
      obtain ⟨i, call, o, ⟨before, after, rfl, hread, hbody, hcleanUp, hcall⟩, hkey⟩ :=
        ih id key body cleanUp hold
      refine ⟨i, call, o, ⟨before, after ++ [x], by simp, hread, hbody, hcleanUp, ?_⟩, hkey⟩
      have hreturned := calls_of_returned hcall rfl [x]
      simpa using hreturned
    by_cases hx : ∃ i, x = .commit i
    · obtain ⟨i, rfl⟩ := hx
      have hnext := (c.after xs).next (.commit i)
      generalize hoccur : (c.after xs).occur (.commit i) = c' at hnext hid
      cases hnext with
      | idle x => apply hold hid
      | @commit i call o hi hstage =>
        rw [scripts_commit] at hid
        have hcommitted := (c.after xs).session.server.committed o
        generalize hresult : ((c.after xs).session.server.commit o).2 = result at hcommitted
        generalize ((c.after xs).session.server.commit o).1 = s' at hcommitted hid
        cases hcommitted with
        | active hactive => apply hold hid
        | declined notes hidle hfault =>
          have henroll := (c.after xs).session.server.scripts_enroll o.key
          apply hold
          rw [← henroll]
          apply hid
        | @launched s' body' cleanUp' hidle hbody hcleanUp hscripts =>
          rw [hscripts] at hid
          rcases of_getElem?_concat hid with ⟨rfl, heq⟩ | hid
          · obtain ⟨rfl, rfl, rfl⟩ := heq
            have hlt := (List.getElem?_eq_some_iff.mp hi).1
            refine ⟨i, call, o, ⟨xs, [], rfl, readBy_of_opened hc xs i call o hi hstage, hbody,
              hcleanUp, ?_⟩, rfl⟩
            rw [after_append, after_cons, hoccur]
            simp [commit, hlt, hresult, Server.scripts]
          · apply hold hid
    · have hscripts := ((c.after xs).next x).scripts_eq fun i hi => hx ⟨i, hi⟩
      rw [hscripts] at hid
      apply hold hid

/-! ### How many starts succeed -/

/-- Putting another element in a place of a list changes by the difference how many elements
there are of a kind. -/
theorem countP_set {α : Type} (p : α → Bool) {xs : List α} {i : Nat} {x : α}
    (h : xs[i]? = some x) (y : α) :
  (xs.set i y).countP p + (if p x then 1 else 0) = xs.countP p + if p y then 1 else 0
  := by
  obtain ⟨hlt, rfl⟩ := List.getElem?_eq_some_iff.mp h
  rw [List.countP_set hlt]
  have hpos : p xs[i] → 0 < xs.countP p :=
    fun hp => List.countP_pos_iff.mpr ⟨xs[i], List.getElem_mem hlt, hp⟩
  split
  · have := hpos ‹_›
    omega
  · omega

/-- As many starts of a timeline succeed as runs of it are set up. -/
theorem Next.successes_eq {c' : Concurrence} {x : Occurrence} (h : c.Next x c')
    (hread : ∀ (i : Nat) (call : StartCall) (o : Opening), c.calls[i]? = some call →
      call.stage = .opened o → Path.key? call.file = some o.key) (key : String) :
  c'.calls.countP (·.succeeded key) + c.session.server.runsOf key
    = c.calls.countP (·.succeeded key) + c'.session.server.runsOf key
  := by
  by_cases hx : ∃ i, x = .commit i
  · obtain ⟨i, rfl⟩ := hx
    cases h with
    | idle x => rfl
    | @commit i call o hi hstage =>
      have hkey := hread i call o hi hstage
      have hset := countP_set (·.succeeded key) hi (call.returning (c.session.server.commit o).2)
      have hbefore : call.succeeded key = false := by simp [StartCall.succeeded, hstage]
      have hruns : (c.commit i call o).session.server.runsOf key
          = (c.session.server.commit o).1.runsOf key := by
        simp [Server.runsOf]
      rw [hruns]
      simp only [hbefore, Bool.false_eq_true, if_false, Nat.add_zero] at hset
      simp only [Concurrence.commit, hset]
      have hcommitted := c.session.server.committed o
      generalize (c.session.server.commit o).2 = result at hcommitted
      generalize (c.session.server.commit o).1 = s' at hcommitted
      cases hcommitted with
      | active hactive => simp [StartCall.succeeded, StartCall.returning]
      | declined notes hidle hfault =>
        have henroll := Server.runsOf_congr (c.session.server.scripts_enroll o.key) key
        simp only [StartCall.succeeded, StartCall.returning, Bool.false_eq_true, if_false]
        rw [← henroll]
        rfl
      | launched hidle hbody hcleanUp hscripts =>
        have hsucceeded : (call.returning (.ok c.session.server.runs.length)).succeeded key
            = (o.key == key) := by
          simp [StartCall.succeeded, StartCall.returning, hkey]
        rw [hsucceeded, Server.runsOf, Server.runsOf, hscripts, List.countP_append,
          List.countP_singleton, Nat.add_assoc, Nat.add_comm (c.session.server.scripts.countP _)]
  · have hscripts := h.scripts_eq fun i hi => hx ⟨i, hi⟩
    rw [Server.runsOf_congr hscripts]
    congr 1
    have hset : ∀ (i : Nat) (call later : StartCall), c.calls[i]? = some call →
        call.succeeded key = false → later.succeeded key = false →
        (c.calls.set i later).countP (·.succeeded key) = c.calls.countP (·.succeeded key) := by
      intro i call later hi hbefore hlater
      simpa [hbefore, hlater] using countP_set (·.succeeded key) hi later
    cases h with
    | idle x => rfl
    | call ticket file args => simp [StartCall.succeeded]
    | unread hi hstage => exact hset _ _ _ hi (by simp [StartCall.succeeded, hstage]) rfl
    | read hi hstage hread => exact hset _ _ _ hi (by simp [StartCall.succeeded, hstage]) rfl
    | commit hi hstage => apply absurd ⟨_, rfl⟩ hx
    | other x hstart => rfl

theorem successes_eq (hc : c.calls = []) (hruns : c.session.server.runs = [])
    (xs : List Occurrence) (key : String) :
  (c.after xs).calls.countP (·.succeeded key) = (c.after xs).session.server.runsOf key
  := by
  induction xs using List.reverseRecOn with
  | nil => simp [hc, hruns, Server.runsOf, Server.scripts]
  | append_singleton xs x ih =>
    have hstep := ((c.after xs).next x).successes_eq
      (fun i call o hi hstage => (readBy_of_opened hc xs i call o hi hstage).key_eq.1) key
    rw [after_append, after_cons, after_nil]
    omega

/-! ### Which start wins -/

/-- A start whose timeline is idle, and whose text and clean-up compile, succeeds. -/
theorem commit_of_compiles {s : Server} {o : Opening} {body cleanUp : List Action}
    (hidle : s.isActive o.key = false) (hbody : s.bodyOf o = .ok body)
    (hcleanUp : s.cleanUpOf o = .ok cleanUp) :
  (s.commit o).2 = .ok s.runs.length ∧
  (s.commit o).1.runsOf o.key = s.runsOf o.key + 1
  := by
  have hcommitted := s.committed o
  generalize (s.commit o).2 = result at hcommitted
  generalize (s.commit o).1 = s' at hcommitted
  cases hcommitted with
  | active hactive => simp [hidle] at hactive
  | declined notes hidle hfault =>
    rcases hfault with hfault | ⟨-, hfault⟩
    · simp [hbody] at hfault
    · simp [hcleanUp] at hfault
  | launched hidle hbody hcleanUp hscripts =>
    refine ⟨rfl, ?_⟩
    simp [Server.runsOf, hscripts]

/-- A start whose file has been read goes on to set up its run. -/
theorem occur_commit (hi : c.calls[i]? = some call) (hstage : call.stage = .opened o) :
  c.occur (.commit i) = c.commit i call o
  := by
  simp [occur, hi, hstage]

/-- A start that finds its timeline idle, and whose text and clean-up compile, succeeds. As long
as its run has not ended, all other starts of the timeline are refused. -/
theorem winner (hc : c.session.server.Reachable) {first : Nat} {body cleanUp : List Action}
    (hfirst : c.calls[first]? = some call) (hstage : call.stage = .opened o)
    (hidle : c.session.server.isActive o.key = false)
    (hbody : c.session.server.bodyOf o = .ok body)
    (hcleanUp : c.session.server.cleanUpOf o = .ok cleanUp) (rest : List Occurrence)
    (hends : (c.after (.commit first :: rest)).session.server.ends o.key
      = c.session.server.ends o.key) :
  (c.after (.commit first :: rest)).calls[first]?
    = some (call.returning (.ok c.session.server.runs.length)) ∧
  ∀ middle i rest' call' o', rest = middle ++ .commit i :: rest' →
    (c.after (.commit first :: middle)).calls[i]? = some call' →
    call'.stage = .opened o' → o'.key = o.key →
    (c.after (.commit first :: rest)).calls[i]?
      = some (call'.returning (.error (.alreadyRunning o.key)))
  := by
  obtain ⟨hok, hruns⟩ := commit_of_compiles hidle hbody hcleanUp
  have hoccur := occur_commit hfirst hstage
  have hlt := (List.getElem?_eq_some_iff.mp hfirst).1
  constructor
  · rw [after_cons, hoccur]
    apply calls_of_returned _ rfl
    simp [commit, hlt, hok]
  · rintro middle i rest' call' o' rfl hi hstage' hkey
    -- The start that came first is counted, and its run has not ended since.
    have hcommitted : (c.occur (.commit first)).session.server.Reachable :=
      hc.changes (c.next _).changes
    have hstarted : (c.occur (.commit first)).session.server.starts o.key
        = c.session.server.starts o.key + 1 := by
      rw [hcommitted.starts_eq_runsOf, hc.starts_eq_runsOf, ← hruns, hoccur]
      apply Server.runsOf_congr
      apply scripts_commit
    rw [after_cons] at hi hends ⊢
    have hbefore := after_changes (c.occur (.commit first)) middle
    rw [after_append] at hends ⊢
    generalize (c.occur (.commit first)).after middle = now at hi hbefore hends ⊢
    have hlater := after_changes now (.commit i :: rest')
    have hactive : now.session.server.isActive o'.key := by
      rw [hkey]
      apply hc.isActive_of_starts_lt (hcommitted.changes hbefore) hidle
      · have hle := hbefore.starts_le o.key
        omega
      · have hfirst := (c.next (.commit first)).changes.ends_le o.key
        have hmiddle := hbefore.ends_le o.key
        have hlast := hlater.ends_le o.key
        omega
    have hlt' := (List.getElem?_eq_some_iff.mp hi).1
    rw [after_cons, occur_commit hi hstage']
    apply calls_of_returned _ rfl
    simp [commit, hlt', Server.commit_of_isActive _ hactive, hkey]

/-- Whatever happens, and however starts are interleaved with it: a timeline has at most one run
that has not published its end. As many starts of it succeed as there are events that tell of
one. Each run carries out what is compiled of the text that one start has read, with the
arguments of the same start, and of the clean-up. And of the starts of a timeline that set up
their runs while no run of it ends, the first one succeeds if it finds the timeline idle and can
be compiled, and all others are refused. -/
theorem serialises (files : Files) (settings : Settings) (commands : List Command)
    (awaiting : List Awaiting) (xs : List Occurrence) :
  let new := new files settings commands awaiting
  let done := new.after xs
  (∀ (id id' : RunId) (run run' : Run), done.session.server.runs[id]? = some run →
    done.session.server.runs[id']? = some run' → run.key = run'.key →
    Entry.ends (done.session.server.historyOf id) = [] →
    Entry.ends (done.session.server.historyOf id') = [] → id = id') ∧
  (∀ key, done.calls.countP (·.succeeded key)
    = (done.session.server.eventsOf key).countP (·.isStart)) ∧
  (∀ (id : RunId) (run : Run), done.session.server.runs[id]? = some run →
    ∃ i call o, new.SetUpBy xs i call o id run.body run.cleanUp ∧
      o.key = run.key ∧ Path.key? call.file = some o.key ∧ o.args = call.args) ∧
  (∀ before first rest call o body cleanUp, xs = before ++ .commit first :: rest →
    (new.after before).calls[first]? = some call → call.stage = .opened o →
    (new.after before).session.server.isActive o.key = false →
    (new.after before).session.server.bodyOf o = .ok body →
    (new.after before).session.server.cleanUpOf o = .ok cleanUp →
    (done.session.server.eventsOf o.key).countP (·.isEnd)
      = ((new.after before).session.server.eventsOf o.key).countP (·.isEnd) →
    (∃ id, done.calls[first]? = some (call.returning (.ok id))) ∧
    ∀ middle i rest' call' o', rest = middle ++ .commit i :: rest' →
      (new.after (before ++ .commit first :: middle)).calls[i]? = some call' →
      call'.stage = .opened o' → o'.key = o.key →
      done.calls[i]? = some (call'.returning (.error (.alreadyRunning o.key))))
  := by
  intro new done
  have hreach : ∀ xs, (new.after xs).session.server.Reachable :=
    fun xs => (Server.Reachable.new settings commands awaiting).changes (after_changes new xs)
  refine ⟨?_, ?_, ?_, ?_⟩
  · intro id id' run run' hrun hrun' hkey hends hends'
    have hrunning : ∀ id run, done.session.server.runs[id]? = some run →
        Entry.ends (done.session.server.historyOf id) = [] → run.isRunning := by
      intro id run hrun hends
      rw [((hreach xs).lived hrun).ends_eq] at hends
      rw [Run.isRunning, Run.state]
      cases hphase : run.phase with
      | ended cancelled => simp [hphase, Phase.ends] at hends
      | _ => rfl
    exact (hreach xs).kept.eq_of_isRunning hrun hrun' hkey (hrunning id run hrun hends)
      (hrunning id' run' hrun' hends')
  · intro key
    have hsuccesses := successes_eq (c := new) rfl rfl xs key
    rw [hsuccesses, ← (hreach xs).starts_eq_runsOf, Server.starts]
  · intro id run hrun
    have hscript : done.session.server.scripts[id]? = some (run.key, run.body, run.cleanUp) := by
      rw [Server.scripts, List.getElem?_map, hrun]
      rfl
    obtain ⟨i, call, o, hsetUp, hkey⟩ := exists_setUpBy (c := new) rfl rfl xs _ _ _ _ hscript
    obtain ⟨before, after, hxs, hread, hrest⟩ := hsetUp
    use i, call, o, ⟨before, after, hxs, hread, hrest⟩, hkey
    apply hread.key_eq
  · rintro before first rest call o body cleanUp rfl hfirst hstage hidle hbody hcleanUp hends
    have hdone : done = (new.after before).after (.commit first :: rest) := after_append ..
    rw [hdone] at hends ⊢
    obtain ⟨hok, hothers⟩ := winner (hreach before) hfirst hstage hidle hbody hcleanUp rest hends
    refine ⟨⟨_, hok⟩, ?_⟩
    intro middle i rest' call' o' hrest hi hstage' hkey
    rw [after_append] at hi
    apply hothers middle i rest' call' o' hrest hi hstage' hkey

/-- Two starts of a timeline that waits, both of which have read the file before either has set
up its run. -/
def twoStarts (cleanUp : List String) : Concurrence :=
  (new (.ofList [("timelines/show", .file (.text "#wait 5"))]) { cleanUp } [] []).after
    [.call none "show" [], .call none "show" [], .read 0, .read 1]

theorem serialises_twoStarts :
  let done := (twoStarts []).after [.commit 1, .commit 0]
  (∃ id, done.calls[1]? = some ⟨none, "show", [], .returned (.ok id)⟩) ∧
  done.calls[0]? = some ⟨none, "show", [], .returned (.error (.alreadyRunning "show"))⟩
  := by
  obtain ⟨-, -, -, hwinner⟩ := serialises
    (.ofList [("timelines/show", .file (.text "#wait 5"))]) {} [] []
    [.call none "show" [], .call none "show" [], .read 0, .read 1, .commit 1, .commit 0]
  obtain ⟨hok, hothers⟩ := hwinner
    [.call none "show" [], .call none "show" [], .read 0, .read 1] 1 [.commit 0]
    ⟨none, "show", [], .opened ⟨"show", "#wait 5", []⟩⟩ ⟨"show", "#wait 5", []⟩
    [.delay 1 5] [] rfl (by rfl) rfl (by decide +kernel) (by rfl) (by rfl) (by decide +kernel)
  use hok
  apply hothers [] 0 [] ⟨none, "show", [], .opened ⟨"show", "#wait 5", []⟩⟩
    ⟨"show", "#wait 5", []⟩ rfl (by rfl) rfl rfl

/-- Starts whose texts compile fail nevertheless if the lines of the clean-up do not. -/
theorem twoStarts_fail :
  let c := twoStarts ["#wait soon"]
  c.calls.map (·.stage) = List.replicate 2 (.opened ⟨"show", "#wait 5", []⟩) ∧
  c.session.server.isActive "show" = false ∧
  c.session.server.bodyOf ⟨"show", "#wait 5", []⟩ = .ok [.delay 1 5] ∧
  (c.after [.commit 0, .commit 1]).calls.map (·.stage)
    = List.replicate 2 (.returned (.error (.invalidWait 1 "soon")))
  := by
  refine ⟨by rfl, by decide +kernel, by rfl, by rfl⟩

end Concurrence

end CommandTimelines
