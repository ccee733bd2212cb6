import CommandTimelines.Proofs.Ending
import CommandTimelines.Proofs.Lifecycle

/-!
# Starts of runs

A run is set up by the second phase of a start and by nothing else: the timelines and the
actions of all runs, `Server.scripts`, are a steady view of the server, and `Server.Committed`
says what the second phase of a start can come to.

Each run that is set up is told of by one event (`Server.Reachable.starts_eq_runsOf`), and the
events also tell when a timeline is active: it has then started once more often than it has
ended (`Server.Reachable.starts_eq`).
-/

namespace CommandTimelines

open Computability Host Script Operator

/-! ### Counting starts and ends -/

/-- Whether an event is a start. -/
def Event.isStart : Event → Bool
  | .started _ _ => true
  | _ => false

/-- Whether an event is an end. -/
def Event.isEnd : Event → Bool
  | .finished _ _ => true
  | _ => false

namespace Event

/-- Sequences that start as often as they end do so when they are put together. -/
theorem countP_of_mem_kstar {L : Language Event}
    (hL : ∀ v ∈ L, v.countP (·.isStart) = v.countP (·.isEnd)) {w : List Event} (h : w ∈ L∗) :
  w.countP (·.isStart) = w.countP (·.isEnd)
  := by
  obtain ⟨ws, rfl, hws⟩ := Language.mem_kstar.mp h
  rw [List.countP_flatten, List.countP_flatten]
  congr 1
  apply List.map_congr_left
  intro v hv
  apply hL v (hws v hv)

/-- A run that has not ended has started once more. -/
theorem countP_of_mem_unfinished {w : List Event} (h : w ∈ unfinished) :
  w.countP (·.isStart) = w.countP (·.isEnd) + 1
  := by
  obtain ⟨u, ⟨key, actions, rfl⟩, v, hv, rfl⟩ := Language.mem_mul.mp h
  have hfailures : ∀ v ∈ failures, v.countP (·.isStart) = v.countP (·.isEnd) := by
    rintro v ⟨key, line, error, rfl⟩
    rfl
  have hcount := countP_of_mem_kstar hfailures hv
  have hstart : [started key actions].countP (·.isStart) = 1 := rfl
  have hend : [started key actions].countP (·.isEnd) = 0 := rfl
  simp only [List.countP_append]
  omega

/-- Whole runs have started as often as they have ended. -/
theorem countP_of_mem_closed {w : List Event} (h : w ∈ closed) :
  w.countP (·.isStart) = w.countP (·.isEnd)
  := by
  apply countP_of_mem_kstar _ h
  intro v hv
  obtain ⟨u, hu, u', ⟨key, cancelled, rfl⟩, rfl⟩ := Language.mem_mul.mp hv
  have hcount := countP_of_mem_unfinished hu
  have hstart : [finished key cancelled].countP (·.isStart) = 0 := rfl
  have hend : [finished key cancelled].countP (·.isEnd) = 1 := rfl
  simp only [List.countP_append]
  omega

theorem countP_of_mem_opened {w : List Event} (h : w ∈ opened) :
  w.countP (·.isStart) = w.countP (·.isEnd) + 1
  := by
  obtain ⟨u, hu, v, hv, rfl⟩ := Language.mem_mul.mp h
  have hclosed := countP_of_mem_closed hu
  have hunfinished := countP_of_mem_unfinished hv
  simp only [List.countP_append]
  omega

end Event

namespace Server

variable {s t : Server}

/-- How often a timeline has started, as its events tell. -/
def starts (s : Server) (key : String) : Nat := (s.eventsOf key).countP (·.isStart)

/-- How often a timeline has ended, as its events tell. -/
def ends (s : Server) (key : String) : Nat := (s.eventsOf key).countP (·.isEnd)

/-- A timeline has started as often as it has ended, and once more if it is active. -/
theorem Reachable.starts_eq (h : s.Reachable) (key : String) :
  s.starts key = s.ends key + if s.isActive key then 1 else 0
  := by
  have hevents := h.bracketed key
  cases hactive : s.isActive key with
  | true =>
    rw [hactive] at hevents
    apply Event.countP_of_mem_opened hevents
  | false =>
    rw [hactive] at hevents
    apply Event.countP_of_mem_closed hevents

/-- A timeline that was idle, and has started since and not ended, is active. -/
theorem Reachable.isActive_of_starts_lt (hs : s.Reachable) (ht : t.Reachable) {key : String}
    (hidle : s.isActive key = false) (hstarts : s.starts key < t.starts key)
    (hends : t.ends key = s.ends key) :
  t.isActive key
  := by
  by_contra hactive
  have hbefore := hs.starts_eq key
  have hafter := ht.starts_eq key
  simp only [hidle, hactive, Bool.false_eq_true, if_false] at hbefore hafter
  omega

/-- The events of a timeline become more only. -/
theorem Changes.eventsOf_sublist (h : Changes s t) (key : String) :
  (s.eventsOf key).Sublist (t.eventsOf key)
  := by
  have hhistory : s.history.Sublist t.history := List.reverse_sublist.mpr h.journal_suffix.sublist
  apply (hhistory.filterMap _).filter

theorem Changes.starts_le (h : Changes s t) (key : String) :
  s.starts key ≤ t.starts key
  := (h.eventsOf_sublist key).countP_le

theorem Changes.ends_le (h : Changes s t) (key : String) :
  s.ends key ≤ t.ends key
  := (h.eventsOf_sublist key).countP_le

/-! ### The scripts of runs -/

/-- The timelines and the actions of all runs. -/
def scripts (s : Server) : List (String × List Action × List Action) := s.runs.map (·.script)

/-- How many runs of a timeline there are. -/
def runsOf (s : Server) (key : String) : Nat := s.scripts.countP (·.1 == key)

theorem runsOf_congr (h : t.scripts = s.scripts) (key : String) :
  t.runsOf key = s.runsOf key
  := by
  rw [runsOf, h, runsOf]

/-- A run that is changed keeps its script. -/
theorem map_script_set {runs : List Run} {id : RunId} {run run' : Run}
    (hrun : runs[id]? = some run) (h : run'.script = run.script) :
  (runs.set id run').map (·.script) = runs.map (·.script)
  := by
  apply List.ext_getElem?
  intro i
  rw [List.map_set, h]
  by_cases hi : i = id
  · subst hi
    have hlt := (List.getElem?_eq_some_iff.mp hrun).1
    rw [List.getElem?_set_self (by simpa using hlt), List.getElem?_map, hrun]
    rfl
  · rw [List.getElem?_set_ne (Ne.symm hi)]

/-- There are as many runs of a timeline as events that tell of its starts. -/
theorem Reachable.starts_eq_runsOf (h : s.Reachable) (key : String) :
  s.starts key = s.runsOf key
  := by
  induction h with
  | new settings commands awaiting => rfl
  | @change s t hs hchange ih =>
    cases hchange with
    | aside commands awaiting hturns hclock => apply ih
    | record fact hrun hstops =>
      have hfacts : ∀ fact' ∈ [fact], fact'.run? = none := by simpa using hrun
      have hevents := eventsOf_reverse_journalWith s [fact] key
      rw [eventsOf_of_none hfacts, List.append_nil] at hevents
      have hstarts := congrArg (List.countP (·.isStart)) hevents
      apply hstarts.trans ih
    | enroll key' =>
      obtain ⟨timelines, heq⟩ := enroll_eq s key'
      rw [heq]
      apply ih
    | launch o body cleanUp hidle hknown hbody hcleanUp =>
      have hruns : (s.runs.map (·.script)).countP (·.1 == key) = s.starts key := ih.symm
      have hevents : Entry.eventsOf key ([Fact.published s.runs.length
          (.started o.key body.length)].map (Entry.mk s.clock))
          = if o.key = key then [.started o.key body.length] else [] := by
        by_cases hkey : o.key = key <;> simp [Entry.eventsOf, Entry.event?, Event.name, hkey]
      simp only [starts, runsOf, scripts, eventsOf, history, eventsOf_reverse_journalWith,
        hevents, List.map_append, List.countP_append, hruns]
      by_cases hkey : o.key = key
      · simp [hkey, Run.script, Event.isStart]
      · simp [hkey, Run.script]
    | @work id run run' facts pending hrun hnext hfollows =>
      have hscript : run'.script = run.script := by
        obtain ⟨hkey, hbody, hcleanUp⟩ := hnext.key_eq
        rw [Run.script, hkey, hbody, hcleanUp, Run.script]
      have hruns : s.starts key = (s.runs.map (·.script)).countP (·.1 == key) := ih
      have hpublishes := hnext.publishes s.clock
      have hnone : (Entry.eventsOf key (facts.map (Entry.mk s.clock))).countP (·.isStart) = 0 := by
        rw [Entry.eventsOf]
        generalize (facts.map (Entry.mk s.clock)).filterMap (·.event?) = events at hpublishes ⊢
        cases hpublishes with
        | nothing hsame => rfl
        | failed line error hrunning hrunning' => simp [List.filter_cons, Event.isStart, apply_ite]
        | finished cancelled hrunning hended => simp [List.filter_cons, Event.isStart, apply_ite]
      simp only [starts, runsOf, scripts, eventsOf, history, eventsOf_reverse_journalWith,
        map_script_set hrun hscript, List.countP_append, hnone]
      rw [← hruns, starts]
      rfl
    | @serve pending facts hserved =>
      have hnone := eventsOf_of_none (fun fact hfact => hserved.run?_eq hfact) s.clock key
      simp only [starts, eventsOf, history, eventsOf_reverse_journalWith, hnone, List.append_nil]
      apply ih

/-- Nothing but a start sets up a run. -/
theorem steady_scripts :
  Steady scripts
  := by
  constructor
  case updateRun =>
    intro s id f hf
    cases hrun : s.runs[id]? with
    | none =>
      rw [List.getElem?_eq_none_iff] at hrun
      simp [scripts, updateRun, List.modify_eq_self hrun]
    | some run =>
      rw [updateRun_eq s hrun]
      apply map_script_set hrun (hf run)
  all_goals
    intros
    rfl

theorem scripts_enroll (s : Server) (key : String) :
  (s.enroll key).scripts = s.scripts
  := by
  obtain ⟨timelines, heq⟩ := enroll_eq s key
  rw [heq]
  rfl

/-- The timeline of a run. -/
def keyOf? (s : Server) (id : RunId) : Option String := s.runs[id]?.map (·.key)

theorem keyOf?_eq (s : Server) (id : RunId) :
  s.keyOf? id = s.scripts[id]?.map (·.1)
  := by
  rw [keyOf?, scripts, List.getElem?_map, Option.map_map]
  rfl

/-- A run stays one of its timeline. -/
theorem Change.keyOf? (h : s.Change t) {id : RunId} {key : String}
    (hkey : s.keyOf? id = some key) :
  t.keyOf? id = some key
  := by
  cases h with
  | aside commands awaiting hturns hclock => exact hkey
  | record fact hrun hstops => exact hkey
  | enroll other =>
    rw [keyOf?_eq, scripts_enroll, ← keyOf?_eq]
    exact hkey
  | launch o body cleanUp hidle hknown hbody hcleanUp =>
    obtain ⟨run, hrun, rfl⟩ := Option.map_eq_some_iff.mp hkey
    have hlt := (List.getElem?_eq_some_iff.mp hrun).1
    simp only [Server.keyOf?, List.getElem?_append_left hlt, hrun, Option.map_some]
  | @work worker run run' facts pending hrun hnext hfollows =>
    obtain ⟨hkey', hbody, hcleanUp⟩ := hnext.key_eq
    have hscript : run'.script = run.script := by
      rw [Run.script, hkey', hbody, hcleanUp, Run.script]
    have hscripts := map_script_set hrun hscript
    rw [keyOf?_eq] at hkey ⊢
    rw [← hkey]
    exact congrArg (fun scripts => scripts[id]?.map (·.1)) hscripts
  | serve hserved => exact hkey

theorem Changes.keyOf? (h : Changes s t) {id : RunId} {key : String}
    (hkey : s.keyOf? id = some key) :
  t.keyOf? id = some key
  := by
  induction h with
  | refl => exact hkey
  | tail _ hchange ih => exact hchange.keyOf? ih

/-! ### The second phase of a start -/

/-- `Committed s o s' result`: the second phase of the start `o` makes `s'` of the server `s`,
with a result. It is refused if the timeline is active. If it cannot be compiled, a timeline is
known from then on and notes are taken. Otherwise a run is set up of what has been compiled. -/
inductive Committed (s : Server) (o : Opening) : Server → Except TimelineError RunId → Prop
  | active (h : s.isActive o.key) : Committed s o s (.error (.alreadyRunning o.key))
  | declined {error : TimelineError} (notes : List Note) (hidle : s.isActive o.key = false)
      (hfault : s.bodyOf o = .error error ∨
        (∃ body, s.bodyOf o = .ok body) ∧ s.cleanUpOf o = .error error) :
      Committed s o
        { s.enroll o.key with journal := (s.enroll o.key).journalWith (notes.map .noted) }
        (.error error)
  | launched {s' : Server} {body cleanUp : List Action} (hidle : s.isActive o.key = false)
      (hbody : s.bodyOf o = .ok body) (hcleanUp : s.cleanUpOf o = .ok cleanUp)
      (hscripts : s'.scripts = s.scripts ++ [(o.key, body, cleanUp)]) :
      Committed s o s' (.ok s.runs.length)

/-- What a start compiles does not depend on which timelines are known. -/
theorem bodyOf_enroll (s : Server) (key : String) (o : Opening) :
  (s.enroll key).bodyOf o = s.bodyOf o ∧ (s.enroll key).cleanUpOf o = s.cleanUpOf o
  := by
  obtain ⟨timelines, heq⟩ := enroll_eq s key
  rw [heq]
  constructor <;> rfl

theorem scripts_launch (s : Server) (o : Opening) (body cleanUp : List Action) :
  (s.launch o body cleanUp).scripts = s.scripts ++ [(o.key, body, cleanUp)]
  := List.map_append

/-- A run that is put behind all others is one of its timeline. -/
theorem keyOf?_of_scripts {s t : Server} {script : String × List Action × List Action}
    (h : t.scripts = s.scripts ++ [script]) :
  t.keyOf? s.runs.length = some script.1
  := by
  have hlength : s.runs.length = s.scripts.length := List.length_map _ |>.symm
  rw [keyOf?_eq, h, hlength, List.getElem?_concat_length]
  rfl

theorem committed (s : Server) (o : Opening) :
  s.Committed o (s.commit o).1 (s.commit o).2
  := by
  obtain ⟨hbodyOf, hcleanUpOf⟩ := bodyOf_enroll s o.key o
  rw [commit]
  split
  · rename_i hactive
    exact .active hactive
  · rename_i hactive
    have hidle : s.isActive o.key = false := by simpa using hactive
    simp only
    rw [hbodyOf]
    split
    · rename_i error hbody
      exact .declined [.notStarted o.key error] hidle (.inl hbody)
    · rename_i body hbody
      have hcompiled : ((s.enroll o.key).log (.compiled o.key body.length)).cleanUpOf o
          = s.cleanUpOf o := hcleanUpOf
      rw [hcompiled]
      split
      · rename_i error hcleanUp
        exact .declined [.compiled o.key body.length, .notStarted o.key error] hidle
          (.inr ⟨⟨body, hbody⟩, hcleanUp⟩)
      · rename_i cleanUp hcleanUp
        have hlength : (s.enroll o.key).runs.length = s.runs.length := by
          simpa [scripts] using congrArg List.length (s.scripts_enroll o.key)
        have hscripts := s.scripts_enroll o.key
        simp only [log, record, hlength]
        apply Committed.launched hidle hbody hcleanUp
        rw [scripts_launch]
        apply congrArg (· ++ [(o.key, body, cleanUp)]) hscripts

/-- The second phase of a start as it is carried out with timelines that keep a text and arguments:
unless the timeline is running, those of the start are put down there, and what is compiled is what
is found there. -/
def commitArmed (s : Server) (armed : String → String × List String) (o : Opening) :
    (String → String × List String) × Server × Except TimelineError RunId :=
  if s.isActive o.key then (armed, s, .error (.alreadyRunning o.key))
  else
    let armed := Function.update armed o.key (o.text, o.args)
    (armed, s.commit ⟨o.key, (armed o.key).1, (armed o.key).2⟩)

/-- Whatever timelines keep of starts before, the next start does not find it. -/
theorem commitArmed_snd (s : Server) (armed : String → String × List String) (o : Opening) :
  (s.commitArmed armed o).2 = s.commit o
  := by
  rw [commitArmed]
  split
  · rename_i hactive
    rw [commit, if_pos hactive]
  · simp only [Function.update_self]

/-- A run that is set up is one of the timeline that was to be started. -/
theorem keyOf?_of_commit {s : Server} {o : Opening} {id : RunId} (h : (s.commit o).2 = .ok id) :
  (s.commit o).1.keyOf? id = some o.key
  := by
  have hcommitted := s.committed o
  rw [h] at hcommitted
  generalize (s.commit o).1 = s' at hcommitted ⊢
  cases hcommitted with
  | launched hidle hbody hcleanUp hscripts => exact keyOf?_of_scripts hscripts

end Server

/-- A start reads its file under the file's key. -/
theorem Opening.key_of_read {root : String} {files : Files} {file : String} {args : List String}
    {o : Opening} (h : Opening.read root files file args = .ok o) :
  Path.key? file = some o.key
  := by
  rw [Opening.read] at h
  split at h
  · cases h
  · rename_i key hkey
    split at h
    · obtain rfl := Except.ok.inj h
      exact hkey
    · cases h
    · cases h

end CommandTimelines
