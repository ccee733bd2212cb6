import CommandTimelines.Proofs.Completion
import CommandTimelines.Proofs.Separation

/-!
# Time and the timeline that is left out

A server and what is left of it when a timeline is struck out (`Server.Omits`) go on side by side.
Of the steps that are possible, the first one is taken each time (`Server.First`). Where it belongs
to the timeline that is left out, the second server stays as it is, and where time stops for that
timeline alone, time goes on in the second one without anything to do (`Server.Omits.advance`). So
it does not matter that the servers get through their steps in different numbers.
-/

namespace CommandTimelines

open Host Script Operator

namespace Server

/-! ### The first step that is possible -/

/-- The first step that is possible: that of the first request that is due, or, if none is, that of
the first run that can take its next step. -/
inductive First (s : Server) : Move → Prop
  | serve {before after : List Pending} {p : Pending} (hpending : s.pending = before ++ p :: after)
      (hbefore : ∀ q ∈ before, s.isDue q = false) (hdue : s.isDue p) :
      First s (.serve before.length)
  | work {before after : List RunId} {id : RunId} (hidle : ∀ p ∈ s.pending, s.isDue p = false)
      (hturns : s.turns = before ++ id :: after)
      (hbefore : ∀ other ∈ before, s.canWork other = false) (hcan : s.canWork id) :
      First s (.work id)

section

variable {s : Server} {i : Nat} {p : Pending}

theorem canServe_eq (hp : s.pending[i]? = some p) :
  s.canServe i = s.isDue p
  := by
  rw [canServe, hp]

theorem canServe_append {before after : List Pending} (hpending : s.pending = before ++ p :: after) :
  s.canServe before.length = s.isDue p
  := canServe_eq (by simp [hpending])

/-- The first step that is possible is the one that is listed first. -/
theorem first_iff {move : Move} :
  s.First move ↔ s.moves.head? = some move
  := by
  rw [moves, List.head?_append, List.head?_map, List.head?_map, List.head?_filter,
    List.head?_filter, Option.or_eq_some_iff, Option.map_eq_some_iff, Option.map_eq_none_iff,
    Option.map_eq_some_iff]
  constructor
  · intro h
    cases h with
    | @serve before after p hpending hbefore hdue =>
      refine .inl ⟨before.length, List.find?_range_eq_some.mpr ⟨?_, ?_, ?_⟩, rfl⟩
      · rwa [canServe_append hpending]
      · simp [hpending]
      · intro j hj
        have hq : s.pending[j]? = some before[j] := by
          rw [hpending, List.getElem?_append_left hj, List.getElem?_eq_getElem hj]
        simp [canServe_eq hq, hbefore _ (List.getElem_mem hj)]
    | @work before after id hidle hturns hbefore hcan =>
      refine .inr ⟨List.find?_range_eq_none.mpr ?_, id, ?_, rfl⟩
      · intro i hi
        simp [canServe_eq (List.getElem?_eq_getElem hi), hidle _ (List.getElem_mem hi)]
      · apply List.find?_eq_some_iff_append.mpr ⟨hcan, before, after, hturns, _⟩
        simpa using hbefore
  · rintro (⟨i, hfind, rfl⟩ | ⟨hnone, id, hfind, rfl⟩)
    · obtain ⟨hcan, hmem, hbefore⟩ := List.find?_range_eq_some.mp hfind
      obtain ⟨before, after, rfl, hpending, -, -⟩ :=
        exists_around (List.getElem?_eq_getElem (List.mem_range.mp hmem))
      rw [canServe_append hpending] at hcan
      apply First.serve hpending _ hcan
      intro q hq
      obtain ⟨j, hj, rfl⟩ := List.mem_iff_getElem.mp hq
      have hq : s.pending[j]? = some before[j] := by
        rw [hpending, List.getElem?_append_left hj, List.getElem?_eq_getElem hj]
      simpa [canServe_eq hq] using hbefore j hj
    · obtain ⟨hcan, before, after, hturns, hbefore⟩ := List.find?_eq_some_iff_append.mp hfind
      apply First.work _ hturns _ hcan
      · intro p hp
        obtain ⟨i, hi, rfl⟩ := List.mem_iff_getElem.mp hp
        simpa [canServe_eq (List.getElem?_eq_getElem hi)]
          using List.find?_range_eq_none.mp hnone i hi
      · simpa using hbefore

theorem moves_eq_nil_iff :
  s.moves = [] ↔ (∀ p ∈ s.pending, s.isDue p = false) ∧ ∀ id ∈ s.turns, s.canWork id = false
  := by
  rw [moves, List.append_eq_nil_iff, List.map_eq_nil_iff, List.map_eq_nil_iff,
    List.filter_eq_nil_iff, List.filter_eq_nil_iff]
  simp only [List.mem_range, Bool.not_eq_true]
  apply and_congr_left'
  constructor
  · intro h p hp
    obtain ⟨i, hi, rfl⟩ := List.mem_iff_getElem.mp hp
    rw [← canServe_eq (List.getElem?_eq_getElem hi)]
    exact h i hi
  · intro h i hi
    rw [canServe_eq (List.getElem?_eq_getElem hi)]
    exact h _ (List.getElem_mem hi)

end

/-! ### Letting time pass -/

namespace Omits

variable {cut : Cut} {s t : Server} (h : Omits cut s t)

include h

/-- The first step that is possible is taken in both servers, or it is one that is struck out. -/
theorem first (hs : s.Reachable) {move : Move} (hmove : s.First move) :
  Omits cut (s.step move) t ∨ ∃ move', t.First move' ∧ Omits cut (s.step move) (t.step move')
  := by
  cases hmove with
  | @serve before after p hpending hbefore hdue =>
    cases hp : cut.pending? p with
    | none => exact .inl (h.serve_left (by simp [hpending]) hp)
    | some p' =>
      refine .inr ⟨_, .serve (h.pending_eq hpending hp) ?_ ?_, h.serve hpending hp⟩
      · intro q' hq'
        obtain ⟨q, hq, hleft⟩ := List.mem_filterMap.mp hq'
        rw [h.isDue hleft]
        exact hbefore q hq
      · rwa [h.isDue hp]
  | @work before after id hidle hturns hbefore hcan =>
    cases hid : cut.staysRun id with
    | false => exact .inl (h.work_left hs hid)
    | true =>
      have hturns' : t.turns = (before.filter cut.staysRun).map cut.run
          ++ cut.run id :: (after.filter cut.staysRun).map cut.run := by
        rw [h.turns, hturns]
        simp [hid]
      refine .inr ⟨_, .work ?_ hturns' ?_ ?_, h.work hs hid⟩
      · intro p' hp'
        rw [h.pending] at hp'
        obtain ⟨p, hp, hleft⟩ := List.mem_filterMap.mp hp'
        rw [h.isDue hleft]
        exact hidle p hp
      · intro other' hother'
        obtain ⟨other, hother, rfl⟩ := List.mem_map.mp hother'
        obtain ⟨hmem, hstays⟩ := List.mem_filter.mp hother
        rw [h.canWork hstays]
        exact hbefore other hmem
      · rwa [h.canWork hid]

theorem moves_eq_nil (hmoves : s.moves = []) :
  t.moves = []
  := by
  obtain ⟨hidle, hturns⟩ := moves_eq_nil_iff.mp hmoves
  apply moves_eq_nil_iff.mpr
  constructor
  · intro p' hp'
    rw [h.pending] at hp'
    obtain ⟨p, hp, hleft⟩ := List.mem_filterMap.mp hp'
    rw [h.isDue hleft]
    exact hidle p hp
  · intro id' hid'
    rw [h.turns] at hid'
    obtain ⟨id, hid, rfl⟩ := List.mem_map.mp hid'
    obtain ⟨hmem, hstays⟩ := List.mem_filter.mp hid
    rw [h.canWork hstays]
    exact hturns id hmem

omit h in
/-- Everything settles, in both servers. -/
theorem settleIn (n : Nat) :
  ∀ {m : Nat} {s t : Server}, Omits cut s t → s.Reachable → s.load ≤ n → t.load ≤ m →
    Omits cut (s.settleIn n) (t.settleIn m)
  := by
  induction n with
  | zero =>
    intro m s t h hs hload hload'
    have hmoves : s.moves = [] := moves_settleIn 0 s hload
    rw [settleIn_of_moves _ (h.moves_eq_nil hmoves)]
    exact h
  | succ n ih =>
    intro m s t h hs hload hload'
    rw [Server.settleIn]
    split
    · rename_i hmoves
      rw [settleIn_of_moves _ (h.moves_eq_nil hmoves)]
      exact h
    · rename_i move rest hmoves
      have hfirst : s.First move := first_iff.mpr (by rw [hmoves, List.head?_cons])
      have hlt := load_step_lt s (isEnabled_of_mem_moves s (hmoves ▸ List.mem_cons_self))
      have hreachable := hs.changes (step_changes s move)
      obtain hleft | ⟨move', hfirst', hstep⟩ := h.first hs hfirst
      · exact ih hleft hreachable (by omega) hload'
      · obtain ⟨rest', hmoves'⟩ := List.head?_eq_some_iff.mp (first_iff.mp hfirst')
        have hlt' := load_step_lt t (isEnabled_of_mem_moves t (hmoves' ▸ List.mem_cons_self))
        obtain ⟨m, rfl⟩ := Nat.exists_eq_succ_of_ne_zero
          (Nat.ne_zero_of_lt (Nat.lt_of_lt_of_le hlt' hload'))
        rw [Server.settleIn, hmoves']
        exact ih hstep hreachable (by omega) (by omega)

theorem settle (hs : s.Reachable) :
  Omits cut s.settle t.settle
  := settleIn _ h hs (Nat.le_refl _) (Nat.le_refl _)

theorem deadlines_subset :
  t.deadlines ⊆ s.deadlines
  := by
  rw [Server.deadlines, Server.deadlines, h.runs]
  exact (List.filter_sublist.filterMap _).subset

/-- The next deadline is the next one in the second server too, if it is one of it. -/
theorem min?_deadlines {target time : Nat}
    (htime : (s.deadlines.filter (· ≤ target)).min? = some time) (hdeadline : time ∈ t.deadlines) :
  (t.deadlines.filter (· ≤ target)).min? = some time
  := by
  obtain ⟨hmem, hleast⟩ := List.min?_eq_some_iff.mp htime
  apply List.min?_eq_some_iff.mpr
  refine ⟨List.mem_filter.mpr ⟨hdeadline, (List.mem_filter.mp hmem).2⟩, ?_⟩
  intro deadline hlater
  obtain ⟨hlater, hsoon⟩ := List.mem_filter.mp hlater
  exact hleast deadline (List.mem_filter.mpr ⟨h.deadlines_subset hlater, hsoon⟩)

/-- At a deadline that is not one of the second server, all of its own are still to come. -/
theorem late_of_not_mem {target time : Nat}
    (htime : (s.deadlines.filter (· ≤ target)).min? = some time) (hdeadline : time ∉ t.deadlines) :
  ∀ deadline ∈ t.deadlines, time < deadline
  := by
  obtain ⟨hmem, hleast⟩ := List.min?_eq_some_iff.mp htime
  have hle : time ≤ target := by simpa using (List.mem_filter.mp hmem).2
  intro deadline hlater
  have hne : time ≠ deadline := by
    rintro rfl
    exact hdeadline hlater
  by_cases hsoon : deadline ≤ target
  · have hfirst := hleast deadline
      (List.mem_filter.mpr ⟨h.deadlines_subset hlater, by simpa using hsoon⟩)
    omega
  · omega

omit h in
/-- Time passes in both servers, with as many stops on the way as each of them makes. -/
theorem advanceIn (target n : Nat) :
  ∀ {m : Nat} {s t : Server}, Omits cut s t → s.Reachable → t.Reachable → s.moves = [] →
    s.load ≤ n → t.load ≤ m → Omits cut (s.advanceIn target n) (t.advanceIn target m)
  := by
  induction n with
  | zero =>
    intro m s t h hs ht hmoves hload hload'
    have hnone : ∀ deadline ∈ t.deadlines, target < deadline := by
      intro deadline hmem
      have hmem := h.deadlines_subset hmem
      rw [hs.deadlines_eq_nil hload] at hmem
      cases hmem
    rw [advanceIn_of_late hnone]
    exact h.setClock target
  | succ n ih =>
    intro m s t h hs ht hmoves hload hload'
    rw [Server.advanceIn]
    split
    · rename_i hnone
      have hlate : ∀ deadline ∈ t.deadlines, target < deadline := by
        intro deadline hmem
        have hlate := List.filter_eq_nil_iff.mp (List.min?_eq_none_iff.mp hnone) deadline
          (h.deadlines_subset hmem)
        simpa using hlate
      rw [advanceIn_of_late hlate]
      exact h.setClock target
    · rename_i time htime
      have hdeadline := (List.mem_filter.mp (List.min?_eq_some_iff.mp htime).1).1
      have hlater := hs.clock_lt hmoves hdeadline
      have hlater' : t.clock ≤ time := by
        rw [h.clock]
        exact Nat.le_of_lt hlater
      have hlt := load_settle_lt _ (hs.moves_setClock_ne_nil hdeadline)
      have hreachable := hs.changes (setClock_changes s (Nat.le_of_lt hlater))
      have hreachable' := ht.changes (setClock_changes t hlater')
      have hsettled := (h.setClock time).settle hreachable
      replace ih := fun {m} => ih (m := m) hsettled (hreachable.changes (settle_changes _))
        (hreachable'.changes (settle_changes _)) (moves_settle _)
        (Nat.le_of_lt_succ (Nat.lt_of_lt_of_le hlt hload))
      by_cases hdeadline' : time ∈ t.deadlines
      · have hlt' := load_settle_lt _ (ht.moves_setClock_ne_nil hdeadline')
        obtain ⟨m, rfl⟩ := Nat.exists_eq_succ_of_ne_zero
          (Nat.ne_zero_of_lt (Nat.lt_of_lt_of_le hlt' hload'))
        rw [Server.advanceIn, h.min?_deadlines htime hdeadline']
        exact ih (Nat.le_of_lt_succ (Nat.lt_of_lt_of_le hlt' hload'))
      · -- Nothing that stays is due at this time, so the clock may as well go on.
        have hlate := h.late_of_not_mem htime hdeadline'
        have hsettle := settle_of_moves (moves_setClock_eq_nil (h.moves_eq_nil hmoves) hlate)
        have hsame : (t.setClock time).settle.advanceIn target m = t.advanceIn target m := by
          rw [hsettle]
          cases m <;> rfl
        rw [← hsame]
        apply ih
        rw [hsettle]
        exact hload'

theorem advance (hs : s.Reachable) (ht : t.Reachable) (hmoves : s.moves = []) (milliseconds : Nat) :
  Omits cut (s.advance milliseconds) (t.advance milliseconds)
  := by
  rw [Server.advance, Server.advance, h.clock]
  exact advanceIn _ _ h hs ht hmoves (Nat.le_refl _) (Nat.le_refl _)

end Omits

end Server

end CommandTimelines
