import CommandTimelines.Proofs.Ending
import CommandTimelines.Proofs.Lifecycle

/-!
# Stopping all timelines

A stop of several runs looks at one after the other. It claims the end of a run if it can, and
then waits until the run has ended. A run whose end has been claimed already, by the run itself
or by another stop, is passed over at once, though it may still be cleaning up.

So when such a stop is answered, the end of each of its runs has been claimed, and those that it
has claimed itself have ended (`Session.Reachable.stopsAll`). None of the runs is running any more
if nobody but the stop has claimed their ends (`Session.Reachable.running_eq_nil_of_stopEach`);
otherwise one may be (`stopAll_leaves_running`).
-/

namespace CommandTimelines

open Host Operator

/-- The ticket that a request is answered to. -/
def Pending.ticket : Pending → Ticket
  | .stopping ticket _ _ => ticket
  | .finishing ticket _ => ticket
  | .stoppingAll ticket _ _ _ => ticket

/-- Whether a request is a stop of several runs with a ticket. -/
def Pending.isStopAllOf (ticket : Ticket) : Pending → Bool
  | .stoppingAll other _ _ _ => other == ticket
  | _ => false

namespace Server

variable {s t : Server}

/-! ### Claims that last -/

/-- The end of a run is claimed once at most. -/
theorem Reachable.length_claims_le (h : s.Reachable) (id : RunId) :
  (Entry.claims (s.historyOf id)).length ≤ 1
  := by
  cases hrun : s.runs[id]? with
  | none =>
    rw [h.historic.historyOf_eq_nil (List.getElem?_eq_none_iff.mp hrun)]
    apply Nat.zero_le
  | some run =>
    have hclaimed := (h.lived hrun).claimed
    generalize Entry.claims (s.historyOf id) = claims at hclaimed ⊢
    generalize run.phase = phase at hclaimed
    cases hclaimed <;> simp

/-- The end of a run that has been claimed was claimed by just one. -/
theorem Reachable.exists_claims_eq (h : s.Reachable) {id : RunId}
    (hclaimed : Entry.claims (s.historyOf id) ≠ []) :
  ∃ claimer, Entry.claims (s.historyOf id) = [claimer]
  := List.length_eq_one_iff.mp
    (Nat.le_antisymm (h.length_claims_le id) (List.length_pos_iff.mpr hclaimed))

/-- The end of a run stays claimed by who has claimed it. -/
theorem Changes.claims_eq (h : Changes s t) (ht : t.Reachable) {id : RunId}
    (hclaimed : Entry.claims (s.historyOf id) ≠ []) :
  Entry.claims (t.historyOf id) = Entry.claims (s.historyOf id)
  := by
  obtain ⟨later, hlater⟩ := h.historyOf_prefix id
  have hle := ht.length_claims_le id
  rw [← hlater, Entry.claims_append] at hle ⊢
  rw [List.length_append] at hle
  have hpos := List.length_pos_iff.mpr hclaimed
  have hnil : (Entry.claims later).length = 0 := by omega
  rw [List.length_eq_zero_iff.mp hnil, List.append_nil]

theorem Changes.claims_ne_nil (h : Changes s t) (ht : t.Reachable) {id : RunId}
    (hclaimed : Entry.claims (s.historyOf id) ≠ []) :
  Entry.claims (t.historyOf id) ≠ []
  := by
  rwa [h.claims_eq ht hclaimed]

/-- The end of a run has been claimed by who the journal says. -/
theorem Reachable.claims_of_mem (h : s.Reachable) {entry : Entry} {id : RunId}
    {stop : Option Ticket} (hentry : entry ∈ s.journal) (hfact : entry.fact = .claimed id stop) :
  Entry.claims (s.historyOf id) = [stop]
  := by
  have hmem : stop ∈ Entry.claims (s.historyOf id) := by
    have hhistory : entry ∈ s.historyOf id :=
      List.mem_filter.mpr ⟨List.mem_reverse.mpr hentry, by simp [Entry.isOf, hfact, Fact.run?]⟩
    apply List.mem_filterMap.mpr
    use entry.fact, List.mem_map_of_mem hhistory
    rw [hfact]
    rfl
  obtain ⟨claimer, hclaims⟩ := h.exists_claims_eq (List.ne_nil_of_mem hmem)
  rw [hclaims] at hmem ⊢
  rw [List.mem_singleton.mp hmem]

/-- A stop waits for a run whose end it has claimed itself. -/
theorem Reachable.claims_of_holds (h : s.Reachable) :
  ∀ p ∈ s.pending, ∀ id, Holds id p → Entry.claims (s.historyOf id) = [some p.ticket]
  := by
  induction h with
  | new settings commands awaiting =>
    intro p hp
    cases hp
  | @change s t hs hchange ih =>
    have hkept : ∀ p ∈ s.pending, ∀ id, Holds id p →
        Entry.claims (t.historyOf id) = [some p.ticket] := by
      intro p hp id hholds
      have hclaims := ih p hp id hholds
      rw [Changes.claims_eq (.single hchange) (hs.change hchange) (by simp [hclaims]), hclaims]
    cases hchange with
    | aside commands awaiting hturns hclock => apply hkept
    | record fact hrun hstops => apply hkept
    | enroll key =>
      obtain ⟨timelines, heq⟩ := enroll_eq s key
      rw [heq] at hkept ⊢
      apply hkept
    | launch o body cleanUp hidle hknown hbody hcleanUp => apply hkept
    | @work id run run' facts pending hrun hnext hfollows =>
      have hreach := hs.change (.work hrun hnext hfollows)
      -- The claim that a stop waits for from now on has just been written down.
      have hnew : ∀ ticket, facts = [.claimed id (some ticket)] →
          Entry.claims (historyOf { s with
            runs := s.runs.set id run'
            timelines := s.timelinesWith run.key (run'.begun - run.begun)
            pending
            journal := s.journalWith facts } id) = [some ticket] := by
        rintro ticket rfl
        have hentry : (⟨s.clock, .claimed id (some ticket)⟩ : Entry)
            ∈ s.journalWith [.claimed id (some ticket)] := by
          simp [journalWith]
        exact hreach.claims_of_mem hentry rfl
      intro p hp other hholds
      cases hfollows with
      | own hown => apply hkept p hp other hholds
      | stop ticket asker =>
        rcases List.mem_append.mp hp with hp | hp
        · apply hkept p hp other hholds
        · obtain rfl := List.mem_singleton.mp hp
          obtain rfl := Option.some.inj hholds.2
          apply hnew ticket rfl
      | @stopNext i ticket rest count hi =>
        rcases List.mem_or_eq_of_mem_set hp with hp | rfl
        · apply hkept p hp other hholds
        · obtain rfl := Option.some.inj hholds.2
          apply hnew ticket rfl
    | serve hserved =>
      intro p hp id hholds
      cases hserved with
      | finishing ticket hcurrent =>
        rcases List.mem_append.mp hp with hp | hp
        · apply hkept p hp id hholds
        · obtain rfl := List.mem_singleton.mp hp
          cases hholds.1
      | stoppingAll ticket ids =>
        rcases List.mem_append.mp hp with hp | hp
        · apply hkept p hp id hholds
        · obtain rfl := List.mem_singleton.mp hp
          cases hholds.2
      | skip hi hclaim =>
        rcases List.mem_or_eq_of_mem_set hp with hp | rfl
        · apply hkept p hp id hholds
        · cases hholds.2
      | counted hi hended =>
        rcases List.mem_or_eq_of_mem_set hp with hp | rfl
        · apply hkept p hp id hholds
        · cases hholds.2
      | stopped hi hended => apply hkept p (List.mem_of_mem_eraseIdx hp) id hholds
      | ended hi hended => apply hkept p (List.mem_of_mem_eraseIdx hp) id hholds
      | stoppedAll hi => apply hkept p (List.mem_of_mem_eraseIdx hp) id hholds

/-! ### Lists of requests -/

section

variable {α : Type} {f : α → Bool} {xs : List α} {i : Nat} {x : α}

/-- A list around one of its elements. -/
theorem exists_around (h : xs[i]? = some x) :
  ∃ before after, before.length = i ∧ xs = before ++ x :: after ∧
    (∀ y, xs.set i y = before ++ y :: after) ∧ xs.eraseIdx i = before ++ after
  := by
  obtain ⟨hlt, rfl⟩ := List.getElem?_eq_some_iff.mp h
  refine ⟨xs.take i, xs.drop (i + 1), ?_, ?_, ?_, List.eraseIdx_eq_take_drop_succ xs i⟩
  · rw [List.length_take, Nat.min_eq_left (Nat.le_of_lt hlt)]
  · simp
  · intro y
    rw [List.set_eq_take_append_cons_drop, if_pos hlt]

/-- What is said of the elements of a kind holds no matter what happens to another one. -/
theorem filter_of_not (h : xs[i]? = some x) (hx : f x = false) :
  (∀ y, f y = false → (xs.set i y).filter f = xs.filter f) ∧
  (xs.eraseIdx i).filter f = xs.filter f
  := by
  obtain ⟨before, after, -, rfl, hset, herase⟩ := exists_around h
  constructor
  · intro y hy
    simp [hset, hx, hy]
  · simp [herase, hx]

/-- If nothing is read off an element, then what is read off the others stays no matter what happens
to it. -/
theorem filterMap_of_none {β : Type} (g : α → Option β) (h : xs[i]? = some x) (hx : g x = none) :
  (∀ y, g y = none → (xs.set i y).filterMap g = xs.filterMap g) ∧
  (xs.eraseIdx i).filterMap g = xs.filterMap g
  := by
  obtain ⟨before, after, -, rfl, hset, herase⟩ := exists_around h
  constructor
  · intro y hy
    simp [hset, hx, hy]
  · simp [herase, hx]

/-- What is read off an element is taken out together with it. -/
theorem filterMap_of_some {β : Type} (g : α → Option β) {y : β} (h : xs[i]? = some x)
    (hx : g x = some y) :
  (xs.filterMap g).Perm (y :: (xs.eraseIdx i).filterMap g)
  := by
  obtain ⟨before, after, -, rfl, -, herase⟩ := exists_around h
  rw [herase, List.filterMap_append, List.filterMap_cons_some hx, List.filterMap_append]
  exact List.perm_middle

/-- The only element of a kind can be changed or taken out. -/
theorem filter_of_only {x' : α} (h : xs[i]? = some x) (hx : f x) (honly : xs.filter f = [x']) :
  x' = x ∧ (∀ y, f y → (xs.set i y).filter f = [y]) ∧ (xs.eraseIdx i).filter f = []
  := by
  obtain ⟨before, after, -, rfl, hset, herase⟩ := exists_around h
  rw [List.filter_append, List.filter_cons_of_pos hx] at honly
  obtain ⟨hbefore, hrest⟩ | ⟨-, hnil⟩ := List.append_eq_singleton_iff.mp honly
  · obtain ⟨rfl, hafter⟩ := List.cons.inj hrest
    refine ⟨rfl, ?_, ?_⟩
    · intro y hy
      rw [hset, List.filter_append, List.filter_cons_of_pos hy, hbefore, hafter, List.nil_append]
    · rw [herase, List.filter_append, hbefore, hafter, List.nil_append]
  · cases hnil

end

/-! ### Following one stop -/

/-- The stops of several runs that are waiting under a ticket. -/
def stopAllsOf (s : Server) (ticket : Ticket) : List Pending :=
  s.pending.filter (·.isStopAllOf ticket)

theorem steady_stopAllsOf (ticket : Ticket) :
  Steady (·.stopAllsOf ticket)
  := by
  constructor
  case stopping =>
    intro s other asker id
    simp [stopAllsOf, await, Pending.isStopAllOf]
  all_goals
    intros
    rfl

theorem aloof_stopAllsOf (ticket : Ticket) :
  Aloof (·.stopAllsOf ticket)
  := by
  have hsteady := steady_stopAllsOf ticket
  apply hsteady.aloof fun s => hsteady.commit s (fun _ _ => rfl) fun _ _ => rfl
  intro s other id
  simp [stopAllsOf, await, Pending.isStopAllOf]

/-- How far a stop of several runs has come: it is waiting, and the ends of the runs that it has
looked at have been claimed, or it has been answered, and the ends of all its runs have been
claimed. -/
inductive Looking (s : Server) (ticket : Ticket) (ids : List RunId) : Prop
  | waiting {current : Option RunId} {rest : List RunId} {count : Nat}
      (honly : s.stopAllsOf ticket = [.stoppingAll ticket current rest count])
      (hseen : ∀ id ∈ ids, id ∈ rest ∨ Entry.claims (s.historyOf id) ≠ [])
  | answered {entry : Entry} {count : Nat} (hnone : s.stopAllsOf ticket = [])
      (hentry : entry ∈ s.journal) (hfact : entry.fact = .answered ticket (.stoppedAll count))
      (hseen : ∀ id ∈ ids, Entry.claims (s.historyOf id) ≠ [])

variable {ticket : Ticket} {ids : List RunId}

/-- What happens apart from a stop leaves it where it is. -/
theorem Looking.changes (h : s.Looking ticket ids) (ht : t.Reachable) (hchanges : Changes s t)
    (hsame : t.stopAllsOf ticket = s.stopAllsOf ticket) :
  t.Looking ticket ids
  := by
  cases h with
  | waiting honly hseen =>
    apply Looking.waiting (hsame.trans honly)
    intro id hid
    apply (hseen id hid).imp_right (hchanges.claims_ne_nil ht)
  | answered hnone hentry hfact hseen =>
    apply Looking.answered (hsame.trans hnone) (hchanges.journal_suffix.subset hentry) hfact
    intro id hid
    apply hchanges.claims_ne_nil ht (hseen id hid)

/-- A request that is no stop under a ticket leaves these where they are when it goes on. -/
theorem stopAllsOf_serve {i : Nat} {p : Pending} (hi : s.pending[i]? = some p)
    (hp : p.isStopAllOf ticket = false) :
  (s.serve i).stopAllsOf ticket = s.stopAllsOf ticket
  := by
  obtain ⟨hset, herase⟩ := filter_of_not hi hp
  rw [serve, hi]
  simp only
  split
  · rfl
  · split
    · exact herase
    · exact herase
    · exact hset _ hp
    · split
      · exact hset _ hp
      · rename_i s' hclaim
        simp only [pending_claim? s hclaim]
        exact hset _ hp
    · split
      · exact herase
      · exact herase

/-- A stop of several runs that goes on looks at its next run, or is answered. -/
theorem Looking.serve_self (hs : s.Reachable) {i : Nat} {current : Option RunId}
    {rest : List RunId} {count : Nat}
    (hi : s.pending[i]? = some (.stoppingAll ticket current rest count))
    (honly : s.stopAllsOf ticket = [.stoppingAll ticket current rest count])
    (hseen : ∀ id ∈ ids, id ∈ rest ∨ Entry.claims (s.historyOf id) ≠ [])
    (hids : ∀ id ∈ ids, id < s.runs.length) :
  (s.serve i).Looking ticket ids
  := by
  have hchanges := serve_changes s i
  have hreach := hs.changes hchanges
  obtain ⟨-, hset, herase⟩ := filter_of_only hi (by simp [Pending.isStopAllOf]) honly
  have hseen' : ∀ id ∈ ids, id ∈ rest ∨ Entry.claims ((s.serve i).historyOf id) ≠ [] := by
    intro id hid
    apply (hseen id hid).imp_right (hchanges.claims_ne_nil hreach)
  cases current with
  | some id =>
    cases hended : s.hasEnded id with
    | false =>
      rw [Server.serve, hi]
      simp only [isDue, hended, Bool.not_false, if_true]
      exact .waiting honly hseen
    | true =>
      have hgoesOn : (s.serve i).stopAllsOf ticket
          = [.stoppingAll ticket none rest (count + 1)] := by
        rw [stopAllsOf, Server.serve, hi]
        simp only [isDue, hended, Bool.not_true, Bool.false_eq_true, if_false]
        apply hset
        simp [Pending.isStopAllOf]
      exact .waiting hgoesOn hseen'
  | none =>
    cases rest with
    | nil =>
      have hgone : (s.serve i).stopAllsOf ticket = [] := by
        rw [stopAllsOf, Server.serve, hi]
        simp only [isDue, Bool.not_true, Bool.false_eq_true, if_false]
        split <;> exact herase
      have hentry : (⟨s.clock, .answered ticket (.stoppedAll count)⟩ : Entry)
          ∈ (s.serve i).journal := by
        rw [Server.serve, hi]
        simp only [isDue, Bool.not_true, Bool.false_eq_true, if_false]
        split <;> exact List.mem_cons_self
      apply Looking.answered hgone hentry rfl
      intro id hid
      apply (hseen' id hid).resolve_left List.not_mem_nil
    | cons id rest =>
      -- If the end of the run is not to be had then it has been claimed before.
      have hclaimed : id ∈ ids → Entry.claims ((s.serve i).historyOf id) ≠ [] := by
        intro hid
        cases hclaim : s.claim? ticket id with
        | none =>
          have hlt := hids id hid
          have hphase := (claim?_eq_none_iff s).mp hclaim _ (List.getElem?_eq_getElem hlt)
          apply hchanges.claims_ne_nil hreach
          intro hnil
          apply hphase ((hs.claims_eq_nil_iff (List.getElem?_eq_getElem hlt)).mp hnil)
        | some s' =>
          obtain ⟨run, -, -, rfl⟩ := exists_of_claim? s hclaim
          have hentry : (⟨s.clock, .claimed id (some ticket)⟩ : Entry)
              ∈ (s.serve i).journal := by
            simp only [Server.serve, hi, isDue, hclaim, Bool.not_true, Bool.false_eq_true,
              if_false]
            split <;> simp [log, record, yieldTurn, updateRun]
          rw [hreach.claims_of_mem hentry rfl]
          apply List.cons_ne_nil
      have hseen'' : ∀ other ∈ ids, other ∈ rest ∨
          Entry.claims ((s.serve i).historyOf other) ≠ [] := by
        intro other hother
        rcases hseen' other hother with hmem | hne
        · rcases List.mem_cons.mp hmem with rfl | hmem
          · exact .inr (hclaimed hother)
          · exact .inl hmem
        · exact .inr hne
      cases hclaim : s.claim? ticket id with
      | none =>
        have hgoesOn : (s.serve i).stopAllsOf ticket = [.stoppingAll ticket none rest count] := by
          simp only [stopAllsOf, Server.serve, hi, isDue, hclaim]
          apply hset
          simp [Pending.isStopAllOf]
        exact .waiting hgoesOn hseen''
      | some s' =>
        have hgoesOn : (s.serve i).stopAllsOf ticket
            = [.stoppingAll ticket (some id) rest count] := by
          simp only [stopAllsOf, Server.serve, hi, isDue, hclaim, pending_claim? s hclaim]
          apply hset
          simp [Pending.isStopAllOf]
        exact .waiting hgoesOn hseen''

/-- A request that goes on takes a stop of several runs further, if it is the one. -/
theorem Looking.serve (hs : s.Reachable) (h : s.Looking ticket ids)
    (hids : ∀ id ∈ ids, id < s.runs.length) (i : Nat) :
  (s.serve i).Looking ticket ids
  := by
  have hchanges := serve_changes s i
  have hreach := hs.changes hchanges
  cases hi : s.pending[i]? with
  | none =>
    apply h.changes hreach hchanges
    rw [Server.serve, hi]
  | some p =>
    by_cases hp : p.isStopAllOf ticket
    · have hmem := List.mem_filter.mpr ⟨List.mem_of_getElem? hi, hp⟩
      cases h with
      | answered hnone hentry hfact hseen =>
        rw [stopAllsOf] at hnone
        rw [hnone] at hmem
        cases hmem
      | @waiting current rest count honly hseen =>
        obtain ⟨rfl, -⟩ := filter_of_only hi hp honly
        apply serve_self hs hi honly hseen hids
    · apply h.changes hreach hchanges
      apply stopAllsOf_serve hi (by simpa using hp)

/-- No run is taken away. -/
theorem Changes.length_runs_le (h : Changes s t) :
  s.runs.length ≤ t.runs.length
  := by
  induction h with
  | refl => apply Nat.le_refl
  | tail _ hchange ih =>
    apply Nat.le_trans ih
    cases hchange with
    | enroll key =>
      rw [enroll]
      split <;> apply Nat.le_refl
    | launch o body cleanUp hidle hknown hbody hcleanUp => simp
    | work hrun hnext hfollows => simp
    | _ => apply Nat.le_refl

/-- A run that there is does not begin to run again. -/
theorem Change.isRunning_of (h : s.Change t) {id : RunId} (hid : id < s.runs.length)
    (hrunning : t.isRunning id) :
  s.isRunning id
  := by
  obtain ⟨run', hrun', hrunning'⟩ := (isRunning_iff t id).mp hrunning
  apply (isRunning_iff s id).mpr
  cases h with
  | enroll key =>
    obtain ⟨timelines, heq⟩ := enroll_eq s key
    rw [heq] at hrun'
    exact ⟨run', hrun', hrunning'⟩
  | launch o body cleanUp hidle hknown hbody hcleanUp =>
    use run', (List.getElem?_append_left hid).symm.trans hrun'
  | @work worker run next facts pending hrun hnext hfollows =>
    by_cases hworker : worker = id
    · subst hworker
      obtain rfl := Option.some.inj ((List.getElem?_set_self hid).symm.trans hrun')
      use run, hrun, hnext.isRunning_of hrunning'
    · use run', (List.getElem?_set_ne hworker).symm.trans hrun'
  | _ => exact ⟨run', hrun', hrunning'⟩

theorem Changes.isRunning_of (h : Changes s t) {id : RunId} (hid : id < s.runs.length)
    (hrunning : t.isRunning id) :
  s.isRunning id
  := by
  induction h with
  | refl => exact hrunning
  | tail hbefore hchange ih =>
    apply ih
    apply hchange.isRunning_of _ hrunning
    apply Nat.lt_of_lt_of_le hid (length_runs_le hbefore)

end Server

/-- The ticket under which what happens in a session stops several runs. -/
def Happening.stopAll? : Happening → Option Ticket
  | .perform index .stopAll => some ⟨index, ""⟩
  | .stopEach ticket _ => some ticket
  | _ => none

namespace Session

variable {session : Session} {ticket : Ticket} {ids : List RunId}

/-- A step stops several runs only if it says so. -/
theorem stopAllsOf_perform (session : Session) {index : Nat} {step : Step}
    (h : (Happening.perform index step).stopAll? ≠ some ticket) :
  (session.perform index step).1.server.stopAllsOf ticket = session.server.stopAllsOf ticket
  := by
  apply perform_of_aloof (Server.aloof_stopAllsOf ticket) session index (fun _ _ => rfl)
  rintro rfl
  have hne : (⟨index, ""⟩ : Ticket) ≠ ticket := by simpa [Happening.stopAll?] using h
  simp [Server.stopAll, Server.stopEach, Server.await, Server.stopAllsOf, Pending.isStopAllOf, hne]

/-- Whatever happens, a stop of several runs only goes further. -/
theorem looking_happen (h : session.Reachable) (hlooking : session.server.Looking ticket ids)
    (hids : ∀ id ∈ ids, id < session.server.runs.length) {x : Happening}
    (hx : x.stopAll? ≠ some ticket) :
  (session.happen x).server.Looking ticket ids
  := by
  have hchanges := session.happen_changes x
  have hreach := h.server.changes hchanges
  have haloof := Server.aloof_stopAllsOf ticket
  cases x with
  | perform index step => apply hlooking.changes hreach hchanges (session.stopAllsOf_perform hx)
  | commit opening => apply hlooking.changes hreach hchanges (haloof.commit ..)
  | commitFor other file opening => apply hlooking.changes hreach hchanges (haloof.commit ..)
  | stopEach other others =>
    apply hlooking.changes hreach hchanges
    have hne : other ≠ ticket := by simpa [Happening.stopAll?] using hx
    simp [Session.happen, withServer, Server.stopEach, Server.await, Server.stopAllsOf,
      Pending.isStopAllOf, hne]
  | move move =>
    cases move with
    | work id =>
      have hsteady := Server.steady_stopAllsOf ticket
      apply hlooking.changes hreach hchanges (hsteady.work _ id)
    | serve i => apply hlooking.serve h.server hids
  | pass milliseconds => apply hlooking.changes hreach hchanges rfl

theorem looking_happens (xs : List Happening) :
  ∀ {session : Session}, session.Reachable → session.server.Looking ticket ids →
    (∀ id ∈ ids, id < session.server.runs.length) →
    (∀ x ∈ xs, x.stopAll? ≠ some ticket) →
    (xs.foldl Session.happen session).Reachable ∧
    (xs.foldl Session.happen session).server.Looking ticket ids
  := by
  induction xs with
  | nil =>
    intro session h hlooking hids hxs
    exact ⟨h, hlooking⟩
  | cons x xs ih =>
    intro session h hlooking hids hxs
    apply ih (h.happen x) (looking_happen h hlooking hids (hxs x List.mem_cons_self))
    · intro id hid
      apply Nat.lt_of_lt_of_le (hids id hid)
      apply Server.Changes.length_runs_le (session.happen_changes x)
    · intro y hy
      apply hxs y (List.mem_cons_of_mem x hy)

end Session

namespace Server

variable {s : Server}

/-- A run that has not ended is the current one of its timeline. -/
theorem Kept.mem_currentRuns (h : s.Kept) {id : RunId} {run : Run}
    (hrun : s.runs[id]? = some run) (hrunning : run.isRunning) :
  id ∈ s.currentRuns
  := by
  obtain ⟨current, hcurrent, -, honly⟩ := h.current_of_run id run hrun
  have hlt := (List.getElem?_eq_some_iff.mp hrun).1
  rw [← honly hrunning] at hcurrent
  apply List.mem_filter.mpr ⟨List.mem_range.mpr hlt, _⟩
  simp [isCurrent, runName, hrun, hcurrent]

/-- Once a stop is no longer waiting, the runs whose ends it has claimed have ended, cancelled
and with all of their clean-up. -/
theorem Reachable.cancelled_of_claims (h : s.Reachable) {ticket : Ticket}
    (hnone : ∀ p ∈ s.pending, p.ticket ≠ ticket) {id : RunId} {run : Run}
    (hrun : s.runs[id]? = some run) (hclaims : Entry.claims (s.historyOf id) = [some ticket]) :
  run.state = .cancelled ∧ run.cleaned = run.cleanUp.length ∧
  Entry.ends (s.historyOf id) = [true]
  := by
  have hlived := h.lived hrun
  have hdue : run.phase.stopsDue = 0 := by
    by_contra hdue
    obtain ⟨p, hp, hholds⟩ := h.exists_holds id run hrun hdue
    have hticket := h.claims_of_holds p hp id hholds
    rw [hclaims] at hticket
    apply hnone p hp
    simpa using hticket.symm
  have hclaimed := hlived.claimed
  rw [hclaims] at hclaimed
  cases hphase : run.phase with
  | draining stopping =>
    rw [hphase] at hclaimed hdue
    cases hclaimed
    cases hdue
  | cleaning cancelled =>
    rw [hphase] at hclaimed hdue
    cases hclaimed
    cases hdue
  | ended cancelled =>
    have hends := hlived.ends_eq
    rw [hphase] at hclaimed hends
    cases hclaimed
    refine ⟨?_, (hlived.counted.ended _ hphase).1, hends⟩
    rw [Run.state, hphase]
    rfl

end Server

/-- As soon as a stop of all timelines is no longer waiting, it has been answered, and the end of
each run that was running when it was asked for has been claimed. -/
theorem Session.Reachable.answered_of_stopEach {session : Session} (h : session.Reachable)
    {ticket : Ticket} {ids : List RunId} (hids : ids.Perm session.server.currentRuns)
    (hfresh : ∀ p ∈ session.server.pending, p.ticket ≠ ticket) {xs : List Happening}
    (hxs : ∀ x ∈ xs, x.stopAll? ≠ some ticket) :
  let done := xs.foldl Session.happen (session.happen (.stopEach ticket ids))
  (∀ p ∈ done.server.pending, p.ticket ≠ ticket) →
  done.Reachable ∧
  (∃ count, ∃ entry ∈ done.server.history, entry.fact = .answered ticket (.stoppedAll count)) ∧
  ∀ (id : RunId) (run : Run), session.server.runs[id]? = some run → run.isRunning →
    Entry.claims (done.server.historyOf id) ≠ []
  := by
  intro done hnone
  have hbefore : session.server.stopAllsOf ticket = [] := by
    apply List.filter_eq_nil_iff.mpr
    intro p hp hstop
    cases p with
    | stoppingAll other current rest count =>
      apply hfresh _ hp
      simpa [Pending.isStopAllOf, Pending.ticket] using hstop
    | _ => cases hstop
  have hlooking : (session.happen (.stopEach ticket ids)).server.Looking ticket ids := by
    have hown : (Pending.stoppingAll ticket none ids 0).isStopAllOf ticket := by
      simp [Pending.isStopAllOf]
    have hpending : (session.happen (.stopEach ticket ids)).server.pending
        = session.server.pending ++ [.stoppingAll ticket none ids 0] := rfl
    have honly : (session.happen (.stopEach ticket ids)).server.stopAllsOf ticket
        = [.stoppingAll ticket none ids 0] := by
      rw [Server.stopAllsOf] at hbefore ⊢
      rw [hpending, List.filter_append, hbefore, List.nil_append, List.filter_cons_of_pos hown,
        List.filter_nil]
    exact .waiting honly fun id hid => .inl hid
  have hlt : ∀ id ∈ ids, id < session.server.runs.length := by
    intro id hid
    have hmem := List.mem_filter.mp (hids.mem_iff.mp hid)
    apply List.mem_range.mp hmem.1
  obtain ⟨hreach, hlater⟩ := looking_happens xs (h.happen _) hlooking hlt hxs
  cases hlater with
  | @waiting current rest count honly hseen =>
    have hmem : Pending.stoppingAll ticket current rest count ∈ done.server.pending := by
      apply List.mem_of_mem_filter (p := (·.isStopAllOf ticket))
      rw [← Server.stopAllsOf, honly]
      apply List.mem_singleton_self
    apply absurd rfl (hnone _ hmem)
  | @answered entry count hgone hentry hfact hseen =>
    refine ⟨hreach, ⟨count, entry, List.mem_reverse.mpr hentry, hfact⟩, ?_⟩
    intro id run hrun hrunning
    apply hseen id (hids.mem_iff.mpr (h.server.kept.mem_currentRuns hrun hrunning))

/-- As soon as a stop of all timelines is no longer waiting, in whatever order it looks at them
and whatever happens meanwhile, it has been answered, and the end of each run that was running
when it was asked for has been claimed. A run whose end the stop has claimed itself has ended,
cancelled and with all of its clean-up. -/
theorem Session.Reachable.stopsAll {session : Session} (h : session.Reachable) {ticket : Ticket}
    {ids : List RunId} (hids : ids.Perm session.server.currentRuns)
    (hfresh : ∀ p ∈ session.server.pending, p.ticket ≠ ticket) {xs : List Happening}
    (hxs : ∀ x ∈ xs, x.stopAll? ≠ some ticket) :
  let done := xs.foldl Session.happen (session.happen (.stopEach ticket ids))
  (∀ p ∈ done.server.pending, p.ticket ≠ ticket) →
  (∃ count, ∃ entry ∈ done.server.history, entry.fact = .answered ticket (.stoppedAll count)) ∧
  ∀ (id : RunId) (run : Run), session.server.runs[id]? = some run → run.isRunning →
    ∃ (run' : Run) (claimer : Option Ticket), done.server.runs[id]? = some run' ∧
      Entry.claims (done.server.historyOf id) = [claimer] ∧
      (claimer = some ticket →
        run'.state = .cancelled ∧ run'.cleaned = run'.cleanUp.length ∧
        Entry.ends (done.server.historyOf id) = [true])
  := by
  intro done hnone
  obtain ⟨hreach, hanswered, hclaimed⟩ := h.answered_of_stopEach hids hfresh hxs hnone
  use hanswered
  intro id run hrun hrunning
  have hne := hclaimed id run hrun hrunning
  obtain ⟨claimer, hclaims⟩ := hreach.server.exists_claims_eq hne
  cases hrun' : done.server.runs[id]? with
  | none =>
    have hnil := hreach.server.historic.historyOf_eq_nil (List.getElem?_eq_none_iff.mp hrun')
    apply absurd (congrArg Entry.claims hnil) hne
  | some run' =>
    use run', claimer, rfl, hclaims
    rintro rfl
    apply hreach.server.cancelled_of_claims hnone hrun' hclaims

/-- A timeline that is stopped together with all others before it has begun: its run is
cancelled. -/
theorem stopsAll_of_wait :
  let session := Session.happen {} (.commit ⟨"show", "#wait 5", []⟩)
  let moves := [.serve 0, .work 0, .work 0, .serve 0, .serve 0]
  let done := (moves.map Happening.move).foldl Session.happen
    (session.happen (.stopEach ⟨some 1, ""⟩ [0]))
  done.server.pending = [] ∧ ∃ run, done.server.runs[0]? = some run ∧ run.state = .cancelled
  := by
  intro session moves done
  have hreachable : session.Reachable := .happen (.new {} {} [] []) _
  have hids : [0].Perm session.server.currentRuns := by
    decide +kernel
  have hfresh : ∀ p ∈ session.server.pending, p.ticket ≠ ⟨some 1, ""⟩ := by
    decide +kernel
  have hmoves : ∀ x ∈ moves.map Happening.move, x.stopAll? ≠ some ⟨some 1, ""⟩ := by
    simp [moves, Happening.stopAll?]
  obtain ⟨-, hruns⟩ := hreachable.stopsAll hids hfresh hmoves (by decide +kernel)
  obtain ⟨run, claimer, hrun, hclaims, hcancelled⟩ := hruns 0
    { key := "show", body := [.delay 1 5], cleanUp := [] } (by decide +kernel) rfl
  have hclaimer : Entry.claims (done.server.historyOf 0) = [some ⟨some 1, ""⟩] := by
    decide +kernel
  refine ⟨by decide +kernel, run, hrun, (hcancelled ?_).1⟩
  apply (List.cons.inj (hclaims.symm.trans hclaimer)).1

/-- If nobody else has claimed the end of a run that was running, or claims it meanwhile, and
nothing is started, then no timeline is running any more once a stop of all timelines is
answered. -/
theorem Session.Reachable.running_eq_nil_of_stopEach {session : Session} (h : session.Reachable)
    {ticket : Ticket} {ids : List RunId} (hids : ids.Perm session.server.currentRuns)
    (hfresh : ∀ p ∈ session.server.pending, p.ticket ≠ ticket) {xs : List Happening}
    (hxs : ∀ x ∈ xs, x.stopAll? ≠ some ticket) :
  let done := xs.foldl Session.happen (session.happen (.stopEach ticket ids))
  (∀ p ∈ done.server.pending, p.ticket ≠ ticket) →
  done.server.runs.length = session.server.runs.length →
  (∀ (id : RunId) (run : Run), session.server.runs[id]? = some run → run.isRunning →
    ∀ claimer ∈ Entry.claims (done.server.historyOf id), claimer = some ticket) →
  done.server.running = []
  := by
  intro done hnone hlength hothers
  obtain ⟨hreach, -, hclaimed⟩ := h.answered_of_stopEach hids hfresh hxs hnone
  have hchanges : Server.Changes session.server done.server :=
    (session.happen_changes _).trans (Session.happens_changes xs _)
  apply List.eq_nil_iff_forall_not_mem.mpr
  intro key hkey
  obtain ⟨id, -, hrunning⟩ := (Server.isActive_iff_currentRun? done.server key).mp
    ((hreach.server.kept.mem_running_iff key).mp hkey)
  obtain ⟨run', hrun', hrunning'⟩ := (Server.isRunning_iff done.server id).mp hrunning
  have hlt : id < session.server.runs.length := by
    rw [← hlength]
    exact (List.getElem?_eq_some_iff.mp hrun').1
  obtain ⟨run, hrun, hbefore⟩ := (Server.isRunning_iff session.server id).mp
    (hchanges.isRunning_of hlt hrunning)
  -- The only one who can have claimed the end of the run is the stop, which has seen it end.
  obtain ⟨claimer, hclaims⟩ := hreach.server.exists_claims_eq (hclaimed id run hrun hbefore)
  obtain rfl : claimer = some ticket := by
    apply hothers id run hrun hbefore
    rw [hclaims]
    apply List.mem_singleton_self
  obtain ⟨hcancelled, -⟩ := hreach.server.cancelled_of_claims hnone hrun' hclaims
  rw [Run.isRunning, hcancelled] at hrunning'
  cases hrunning'

/-- A stop of all timelines may be answered while one is still running that was running when it
was asked for: one that has drained its body and waits in its clean-up. -/
theorem stopAll_leaves_running :
  let session := (Session.happen { server := { settings := { cleanUp := ["#wait 5"] } } }
    (.commit ⟨"show", "#wait 0", []⟩)).after 0 (.advance 0)
  let stopped := session.after 1 .stopAll
  session.server.running = ["show"] ∧
  (∃ entry ∈ stopped.server.history, entry.fact = .answered ⟨some 1, ""⟩ (.stoppedAll 0)) ∧
  stopped.server.running = ["show"]
  := by
  decide +kernel

end CommandTimelines
