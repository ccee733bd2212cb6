import CommandTimelines.Proofs.Agreement
import CommandTimelines.Proofs.Inertness
import CommandTimelines.Proofs.Stopping

/-!
# Leaving a timeline out

A server in which several timelines run, and one in which the same is done but for one of the
timelines, stand in a simple relation (`Server.Omits`): the second one is what is left of the first
one if everything that concerns the timeline is struck out, its runs, their turns, the requests
that wait for them and the facts that tell of them. What stays has smaller numbers, runs and steps
alike, since it moves up (`rank`).

There are two lemmas for each small change of a server, one for what is done in both servers and
one, with a name that ends in `left`, for what is done in the first one alone.
-/

namespace CommandTimelines

open Host Script

/-! ### Moving up -/

/-- How many of the numbers below a number stay. -/
def rank (stays : Nat → Bool) (n : Nat) : Nat := Nat.count (fun i => stays i = true) n

section

variable {stays : Nat → Bool} {m n : Nat}

theorem rank_succ (h : stays n) :
  rank stays (n + 1) = rank stays n + 1
  := by
  rw [rank, Nat.count_succ, if_pos h, rank]

theorem rank_succ_of_not (h : stays n = false) :
  rank stays (n + 1) = rank stays n
  := by
  rw [rank, Nat.count_succ, if_neg (by simp [h]), Nat.add_zero, rank]

theorem rank_inj (hm : stays m) (hn : stays n) :
  rank stays m = rank stays n ↔ m = n
  := by
  constructor
  · exact Nat.count_injective hm hn
  · rintro rfl
    rfl

variable {α : Type} {f : α → Bool} {xs : List α} {i : Nat}
  (h : ∀ i x, xs[i]? = some x → stays i = f x)

include h

theorem length_filter_eq_rank :
  (xs.filter f).length = rank stays xs.length
  := by
  induction xs using List.reverseRecOn with
  | nil => simp [rank]
  | append_singleton xs x ih =>
    have hlast : stays xs.length = f x := h xs.length x (by simp)
    have hinit := ih fun i y hy => by
      apply h i y
      rw [List.getElem?_append_left (List.getElem?_eq_some_iff.mp hy).1, hy]
    rw [List.filter_append, List.length_append, hinit, List.length_append, List.length_singleton]
    cases hx : f x with
    | true =>
      rw [rank_succ (hlast.trans hx)]
      simp [hx]
    | false =>
      rw [rank_succ_of_not (hlast.trans hx)]
      simp [hx]

/-- What stays of a list, around one of its elements. -/
theorem exists_around_rank {x : α} (hx : xs[i]? = some x) :
  ∃ before after, (before.filter f).length = rank stays i ∧ xs = before ++ x :: after ∧
    ∀ y, xs.set i y = before ++ y :: after
  := by
  obtain ⟨before, after, rfl, rfl, hset, -⟩ := Server.exists_around hx
  refine ⟨before, after, ?_, rfl, hset⟩
  apply length_filter_eq_rank
  intro i y hy
  apply h i y
  rw [List.getElem?_append_left (List.getElem?_eq_some_iff.mp hy).1, hy]

theorem getElem?_filter_rank (hi : stays i) :
  (xs.filter f)[rank stays i]? = xs[i]?
  := by
  cases hx : xs[i]? with
  | none =>
    rw [List.getElem?_eq_none_iff] at hx ⊢
    rw [length_filter_eq_rank h]
    exact Nat.count_monotone _ hx
  | some x =>
    have hstays : f x = true := (h i x hx).symm.trans hi
    obtain ⟨before, after, hrank, rfl, -⟩ := exists_around_rank h hx
    rw [List.filter_append, List.filter_cons_of_pos hstays, ← hrank]
    simp

theorem filter_modify_rank {g : α → α} (hg : ∀ x, f (g x) = f x) (hi : stays i) :
  (xs.modify i g).filter f = (xs.filter f).modify (rank stays i) g
  := by
  cases hx : xs[i]? with
  | none =>
    have hfilter := (getElem?_filter_rank h hi).trans hx
    rw [List.getElem?_eq_none_iff] at hx hfilter
    rw [List.modify_eq_self hx, List.modify_eq_self hfilter]
  | some x =>
    have hfilter := (getElem?_filter_rank h hi).trans hx
    have hstays : f x = true := (h i x hx).symm.trans hi
    obtain ⟨before, after, hrank, hxs, hset⟩ := exists_around_rank h hx
    rw [List.modify_eq_set_getElem?, List.modify_eq_set_getElem?, hx, hfilter]
    change (xs.set i (g x)).filter f = (xs.filter f).set (rank stays i) (g x)
    rw [hset, ← hrank, hxs]
    simp [hg, hstays]

theorem filter_modify_of_not {g : α → α} (hg : ∀ x, f (g x) = f x) (hi : stays i = false) :
  (xs.modify i g).filter f = xs.filter f
  := by
  cases hx : xs[i]? with
  | none =>
    rw [List.getElem?_eq_none_iff] at hx
    rw [List.modify_eq_self hx]
  | some x =>
    have hstruck : f x = false := (h i x hx).symm.trans hi
    rw [List.modify_eq_set_getElem?, hx]
    exact (Server.filter_of_not hx hstruck).1 _ ((hg x).trans hstruck)

end

/-! ### What is struck out -/

/-- A timeline that is left out, and which steps and which runs stay. -/
structure Cut where
  key : String
  staysStep : Nat → Bool
  staysRun : RunId → Bool

/-- Whether a reply lists the timelines that are running. -/
def Reply.isListing : Reply → Bool
  | .feedback (.info _) => true
  | _ => false

/-- Whether a fact is a call, an event, or an answer other than a list of what is running. -/
def Fact.isShown : Fact → Bool
  | .called _ _ => true
  | .published _ _ => true
  | .answered _ reply => !reply.isListing
  | _ => false

namespace Cut

variable (cut : Cut)

/-- The number that a step gets. -/
def step (n : Nat) : Nat := rank cut.staysStep n

/-- The number that a run gets. -/
def run (id : RunId) : RunId := rank cut.staysRun id

/-- Whether a ticket stays: no step asked for it, or one that stays. -/
def staysTicket (ticket : Ticket) : Bool := ticket.step.all cut.staysStep

/-- The ticket of a step, under the step's new number. -/
def ticket (ticket : Ticket) : Ticket := ticket.renumber cut.step

/-- An action at work, under its run's new number. -/
def work (work : Work) : Work := { work with run := cut.run work.run }

/-- A timeline that stays, with its run's new number. -/
def timeline (t : Timeline) : Timeline := { t with current := t.current.map cut.run }

/-- What is left of a request that waits for a run. -/
def pending? : Pending → Option Pending
  | .stopping ticket asker id =>
    if cut.staysRun id then some (.stopping (cut.ticket ticket) asker (cut.run id)) else none
  | .finishing ticket id =>
    if cut.staysRun id then some (.finishing (cut.ticket ticket) (cut.run id)) else none
  | .stoppingAll _ _ _ _ => none

/-- What is left of a fact that is shown. -/
def fact? : Fact → Option Fact
  | .called none call => some (.called none call)
  | .called (some work) call =>
    if cut.staysRun work.run then some (.called (some (cut.work work)) call) else none
  | .published id event =>
    if event.name = cut.key then none else some (.published (cut.run id) event)
  | .answered ticket reply =>
    if cut.staysTicket ticket && !reply.isListing then some (.answered (cut.ticket ticket) reply)
    else none
  | _ => none

/-- What is left of an entry. -/
def entry? (entry : Entry) : Option Entry := (cut.fact? entry.fact).map (Entry.mk entry.time)

/-- A request that waits for one run, and stays together with it. -/
inductive Fits : Pending → Prop
  | stopping {ticket : Ticket} {id : RunId} (asker : Asker)
      (h : cut.staysTicket ticket = cut.staysRun id) :
      Fits (.stopping ticket asker id)
  | finishing {ticket : Ticket} {id : RunId} (h : cut.staysTicket ticket = cut.staysRun id) :
      Fits (.finishing ticket id)

/-- Whether the runs of a server that stay are those of other timelines. -/
def Divides (s : Server) : Prop :=
  ∀ id key, s.keyOf? id = some key → cut.staysRun id = (key != cut.key)

/-- What leaves a timeline out of a server, if it is known which steps stay. -/
def leaving (key : String) (staysStep : Nat → Bool) (s : Server) : Cut where
  key
  staysStep
  staysRun id := s.keyOf? id != some key

variable {cut}

theorem Divides.leaving {key : String} {staysStep : Nat → Bool} (s : Server) :
  (leaving key staysStep s).Divides s
  := by
  intro id runKey hkey
  simp only [Cut.leaving, hkey, bne, Option.some_beq_some]

theorem run_inj {id other : RunId} (hid : cut.staysRun id) (hother : cut.staysRun other) :
  cut.run id = cut.run other ↔ id = other
  := rank_inj hid hother

/-- A ticket stays and is that of the new step if and only if it was that of the step. -/
theorem step_ticket_iff {n : Nat} (hn : cut.staysStep n) (ticket : Ticket) :
  (cut.staysTicket ticket ∧ (cut.ticket ticket).step = some (cut.step n)) ↔ ticket.step = some n
  := by
  obtain ⟨step, file⟩ := ticket
  cases step with
  | none => simp [staysTicket, Cut.ticket, Ticket.renumber]
  | some m =>
    simp only [staysTicket, Cut.ticket, Ticket.renumber, Option.all_some, Option.map_some,
      Option.some.injEq]
    constructor
    · rintro ⟨hm, heq⟩
      exact (rank_inj hm hn).mp heq
    · rintro rfl
      exact ⟨hn, rfl⟩

theorem Divides.of_scripts {s t : Server} (h : cut.Divides s) (hscripts : t.scripts = s.scripts) :
  cut.Divides t
  := by
  intro id key hkey
  rw [Server.keyOf?_eq, hscripts, ← Server.keyOf?_eq] at hkey
  exact h id key hkey

/-- Runs never change their timelines. -/
theorem Divides.of_changes {s t : Server} (h : cut.Divides t) (hchanges : Server.Changes s t) :
  cut.Divides s
  := by
  intro id key hkey
  exact h id key (hchanges.keyOf? hkey)

/-- A run that is set up stays unless its timeline is the one that is left out. -/
theorem Divides.staysRun_of_commit {s : Server} {o : Opening} (h : cut.Divides (s.commit o).1)
    (hkey : o.key ≠ cut.key) {id : RunId} (hid : (s.commit o).2 = .ok id) :
  cut.staysRun id
  := by
  rw [h id o.key (Server.keyOf?_of_commit hid)]
  simpa using hkey

theorem Divides.staysRun_of_start {s : Server} {files : Files} {file : String} {args : List String}
    (h : cut.Divides (s.start files file args).1) (hfile : Path.key? file ≠ some cut.key)
    {id : RunId} (hid : (s.start files file args).2 = .ok id) :
  cut.staysRun id
  := by
  revert h hid
  rw [Server.start]
  split
  · intro _ hid
    cases hid
  · rename_i o hread
    intro h hid
    apply h.staysRun_of_commit _ hid
    intro hkey
    exact hfile (hkey ▸ Opening.key_of_read hread)

end Cut

namespace Server

/-- `Omits cut s t`: the server `t` is what is left of `s` if a timeline is struck out, apart from
notes and from lists of what is running. -/
structure Omits (cut : Cut) (s t : Server) : Prop where
  settings : t.settings = s.settings
  commands : t.commands = s.commands
  awaiting : t.awaiting = s.awaiting
  clock : t.clock = s.clock
  stays : cut.Divides s
  runs : t.runs = s.runs.filter (·.key != cut.key)
  turns : t.turns = (s.turns.filter cut.staysRun).map cut.run
  timeline? : ∀ key, key ≠ cut.key → t.timeline? key = (s.timeline? key).map cut.timeline
  fits : ∀ p ∈ s.pending, cut.Fits p
  pending : t.pending = s.pending.filterMap cut.pending?
  journal : t.journal.filter (·.fact.isShown) = s.journal.filterMap cut.entry?
  inert : s.Inert

namespace Omits

variable {cut : Cut} {s t : Server} (h : Omits cut s t)

include h

/-! ### What is left of a server -/

theorem staysRun {id : RunId} {run : Run} (hrun : s.runs[id]? = some run) :
  cut.staysRun id = (run.key != cut.key)
  := h.stays id run.key (by simp [keyOf?, hrun])

theorem getElem?_runs {id : RunId} (hid : cut.staysRun id) :
  t.runs[cut.run id]? = s.runs[id]?
  := by
  rw [h.runs]
  exact getElem?_filter_rank (fun _ _ => h.staysRun) hid

theorem key_ne {id : RunId} {run : Run} (hid : cut.staysRun id) (hrun : s.runs[id]? = some run) :
  run.key ≠ cut.key
  := by
  rw [h.staysRun hrun] at hid
  simpa using hid

theorem key_eq {id : RunId} {run : Run} (hid : cut.staysRun id = false)
    (hrun : s.runs[id]? = some run) :
  run.key = cut.key
  := by
  rw [h.staysRun hrun] at hid
  simpa using hid

theorem runState {id : RunId} (hid : cut.staysRun id) :
  t.runState (cut.run id) = s.runState id
  := by
  rw [Server.runState, h.getElem?_runs hid, Server.runState]

theorem hasEnded {id : RunId} (hid : cut.staysRun id) :
  t.hasEnded (cut.run id) = s.hasEnded id
  := by
  rw [Server.hasEnded, h.getElem?_runs hid, Server.hasEnded]

theorem runName {id : RunId} (hid : cut.staysRun id) :
  t.runName (cut.run id) = s.runName id
  := by
  rw [Server.runName, h.getElem?_runs hid, Server.runName]

theorem canWork {id : RunId} (hid : cut.staysRun id) :
  t.canWork (cut.run id) = s.canWork id
  := by
  rw [Server.canWork, h.getElem?_runs hid, h.clock, Server.canWork]

theorem currentRun? {key : String} (hkey : key ≠ cut.key) :
  t.currentRun? key = (s.currentRun? key).map cut.run
  := by
  rw [Server.currentRun?, h.timeline? key hkey, Server.currentRun?]
  cases s.timeline? key <;> rfl

/-- The current run of a timeline that stays does so too, and that of the one that is struck out
does not. -/
theorem staysRun_of_current (hs : s.Kept) {key : String} {id : RunId}
    (hcurrent : s.currentRun? key = some id) :
  cut.staysRun id = (key != cut.key)
  := by
  obtain ⟨run, hrun, rfl⟩ := hs.key_of_current key id hcurrent
  exact h.staysRun hrun

theorem isActive (hs : s.Kept) {key : String} (hkey : key ≠ cut.key) :
  t.isActive key = s.isActive key
  := by
  rw [Server.isActive, h.currentRun? hkey, Server.isActive]
  cases hcurrent : s.currentRun? key with
  | none => rfl
  | some id =>
    have hid : cut.staysRun id := by simp [h.staysRun_of_current hs hcurrent, hkey]
    simp only [Option.map_some, Server.isRunning, h.runState hid]

theorem isDue {p p' : Pending} (hp : cut.pending? p = some p') :
  t.isDue p' = s.isDue p
  := by
  cases p with
  | stopping ticket asker id =>
    obtain ⟨hid, heq⟩ := Option.ite_none_right_eq_some.mp hp
    obtain rfl := Option.some.inj heq
    exact h.hasEnded hid
  | finishing ticket id =>
    obtain ⟨hid, heq⟩ := Option.ite_none_right_eq_some.mp hp
    obtain rfl := Option.some.inj heq
    exact h.hasEnded hid
  | stoppingAll ticket current rest count => cases hp

/-! ### Small changes -/

/-- A fact is written down in both servers, as it is left. -/
theorem record (fact fact' : Fact)
    (hfact : cut.fact? fact = if fact'.isShown then some fact' else none) :
  Omits cut (s.record fact) (t.record fact')
  where
  __ := h
  journal := by
    simp only [Server.record, List.filter_cons, List.filterMap_cons, Cut.entry?, hfact, h.clock,
      h.journal]
    split <;> simp_all
  inert := { h.inert with }

/-- A fact that is struck out. -/
theorem record_left (fact : Fact) (hfact : cut.fact? fact = none) :
  Omits cut (s.record fact) t
  where
  __ := h
  journal := by simp only [Server.record, List.filterMap_cons, Cut.entry?, hfact, h.journal,
    Option.map_none]
  inert := { h.inert with }

/-- Notes make no difference. -/
theorem log (note note' : Note) :
  Omits cut (s.log note) (t.log note')
  := h.record (.noted note) (.noted note') rfl

theorem log_left (note : Note) :
  Omits cut (s.log note) t
  := h.record_left (.noted note) rfl

theorem updateRun {id : RunId} (hid : cut.staysRun id) {f : Run → Run}
    (hf : ∀ run, (f run).script = run.script) :
  Omits cut (s.updateRun id f) (t.updateRun (cut.run id) f)
  where
  __ := h
  stays := h.stays.of_scripts (steady_scripts.updateRun s id hf)
  runs := by
    rw [Server.updateRun, Server.updateRun, h.runs]
    apply (filter_modify_rank (fun _ _ => h.staysRun) _ hid).symm
    intro run
    exact congrArg (·.1 != cut.key) (hf run)
  inert := h.inert.updateRun hf

theorem updateRun_left {id : RunId} (hid : cut.staysRun id = false) {f : Run → Run}
    (hf : ∀ run, (f run).script = run.script) :
  Omits cut (s.updateRun id f) t
  where
  __ := h
  stays := h.stays.of_scripts (steady_scripts.updateRun s id hf)
  runs := by
    rw [Server.updateRun, h.runs]
    apply (filter_modify_of_not (fun _ _ => h.staysRun) _ hid).symm
    intro run
    exact congrArg (·.1 != cut.key) (hf run)
  inert := h.inert.updateRun hf

theorem yieldTurn {id : RunId} (hid : cut.staysRun id) :
  Omits cut (s.yieldTurn id) (t.yieldTurn (cut.run id))
  where
  __ := h
  turns := by
    have hothers : (t.turns.filter (· ≠ cut.run id))
        = ((s.turns.filter (· ≠ id)).filter cut.staysRun).map cut.run := by
      rw [h.turns, List.filter_map, List.filter_filter, List.filter_filter]
      congr 1
      apply List.filter_congr
      intro other _
      cases hother : cut.staysRun other with
      | false => simp
      | true => simp [Cut.run_inj hother hid]
    simp only [Server.yieldTurn, hothers, List.filter_append, List.filter_singleton, hid,
      List.map_append]
    rfl
  inert := { h.inert with }

theorem yieldTurn_left {id : RunId} (hid : cut.staysRun id = false) :
  Omits cut (s.yieldTurn id) t
  where
  __ := h
  turns := by
    rw [Server.yieldTurn, h.turns, List.filter_append, List.filter_filter, List.filter_singleton,
      hid, cond_false, List.append_nil]
    congr 1
    apply List.filter_congr
    intro other _
    cases hother : cut.staysRun other with
    | false => rfl
    | true =>
      have hne : other ≠ id := by
        rintro rfl
        simp [hother] at hid
      simp [hne]
  inert := { h.inert with }

theorem updateTimeline (key : String) {f g : Timeline → Timeline}
    (hf : ∀ r, (f r).key = r.key) (hg : ∀ r, (g r).key = r.key)
    (hfg : ∀ r, g (cut.timeline r) = cut.timeline (f r)) :
  Omits cut (s.updateTimeline key f) (t.updateTimeline key g)
  where
  __ := h
  timeline? := by
    intro other hother
    rw [timeline?_updateTimeline t key hg, timeline?_updateTimeline s key hf,
      h.timeline? other hother, Option.map_map, Option.map_map]
    congr 1
    funext r
    simp only [Function.comp_apply, hfg, apply_ite cut.timeline]
    rfl
  inert := { h.inert with }

theorem updateTimeline_left {f : Timeline → Timeline} (hf : ∀ r, (f r).key = r.key) :
  Omits cut (s.updateTimeline cut.key f) t
  where
  __ := h
  timeline? := by
    intro other hother
    rw [timeline?_updateTimeline s cut.key hf, h.timeline? other hother]
    cases hfound : s.timeline? other with
    | none => rfl
    | some r =>
      have hkey : r.key = other := by simpa using List.find?_some hfound
      simp [hkey, hother]
  inert := { h.inert with }

theorem setPending (pending : List Pending) (hfits : ∀ p ∈ pending, cut.Fits p) :
  Omits cut { s with pending } { t with pending := pending.filterMap cut.pending? }
  where
  __ := h
  fits := hfits
  pending := rfl
  inert := { h.inert with }

theorem setPending_left {pending : List Pending} (hfits : ∀ p ∈ pending, cut.Fits p)
    (hpending : pending.filterMap cut.pending? = s.pending.filterMap cut.pending?) :
  Omits cut { s with pending } t
  where
  __ := h
  fits := hfits
  pending := h.pending.trans hpending.symm
  inert := { h.inert with }

theorem await {p p' : Pending} (hfits : cut.Fits p) (hp : cut.pending? p = some p') :
  Omits cut (s.await p) (t.await p')
  := by
  have hset := h.setPending (s.pending ++ [p]) fun q hq => by
    rcases List.mem_append.mp hq with hq | hq
    · exact h.fits q hq
    · rw [List.mem_singleton.mp hq]
      exact hfits
  rw [List.filterMap_append, ← h.pending, List.filterMap_cons_some hp] at hset
  exact hset

theorem await_left {p : Pending} (hfits : cut.Fits p) (hp : cut.pending? p = none) :
  Omits cut (s.await p) t
  := by
  apply h.setPending_left
  · intro q hq
    rcases List.mem_append.mp hq with hq | hq
    · exact h.fits q hq
    · rw [List.mem_singleton.mp hq]
      exact hfits
  · rw [List.filterMap_append, List.filterMap_cons_none hp, List.filterMap_nil, List.append_nil]

theorem setClock (time : Nat) :
  Omits cut (s.setClock time) (t.setClock time)
  where
  __ := h
  clock := rfl
  inert := { h.inert with }

theorem answer {ticket : Ticket} (hticket : cut.staysTicket ticket) (reply : Reply) :
  Omits cut (s.answer ticket reply) (t.answer (cut.ticket ticket) reply)
  := h.record _ _ (by simp [Cut.fact?, hticket, Fact.isShown])

/-- An answer that is struck out, together with its step or because it lists what is running. -/
theorem answer_left {ticket : Ticket} (hticket : cut.staysTicket ticket = false) (reply : Reply) :
  Omits cut (s.answer ticket reply) t
  := h.record_left _ (by simp [Cut.fact?, hticket])

end Omits

end Server

end CommandTimelines
