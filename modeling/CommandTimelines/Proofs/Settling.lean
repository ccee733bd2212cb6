import CommandTimelines.Proofs.Steady

/-!
# Settling

Every step of a run or of a waiting request lowers the server's load, even one whose handler
stops a timeline. So `Server.settle` comes to an end where nothing can move (`moves_settle`),
and then every run that waits does so for a later time (`Reachable.clock_lt`). What every step
keeps is kept by settling (`settle_induction`), and what settling keeps, and the clock as it moves
on to the next instant that a run waits for, is kept as time passes
(`Reachable.advance_induction`).
-/

namespace CommandTimelines

open Host Script

/-! ### Sums over lists -/

/-- Putting another element in a place of a list changes a sum over it by the difference. -/
theorem foldr_add_set {α : Type} (f : α → Nat) {xs : List α} {i : Nat} {x : α}
    (h : xs[i]? = some x) (y : α) :
  (xs.set i y).foldr (fun a n => f a + n) 0 + f x = xs.foldr (fun a n => f a + n) 0 + f y
  := by
  induction xs generalizing i with
  | nil => simp at h
  | cons a xs ih =>
    cases i with
    | zero =>
      obtain rfl : a = x := by simpa using h
      simp only [List.set_cons_zero, List.foldr_cons]
      omega
    | succ i =>
      have hi := ih (i := i) (by simpa using h)
      simp only [List.set_cons_succ, List.foldr_cons]
      omega

/-- Taking an element out of a list lowers a sum over it by what the element adds. -/
theorem foldr_add_eraseIdx {α : Type} (f : α → Nat) {xs : List α} {i : Nat} {x : α}
    (h : xs[i]? = some x) :
  (xs.eraseIdx i).foldr (fun a n => f a + n) 0 + f x = xs.foldr (fun a n => f a + n) 0
  := by
  induction xs generalizing i with
  | nil => simp at h
  | cons a xs ih =>
    cases i with
    | zero =>
      obtain rfl : a = x := by simpa using h
      simp only [List.eraseIdx_cons_zero, List.foldr_cons]
      omega
    | succ i =>
      have hi := ih (i := i) (by simpa using h)
      simp only [List.eraseIdx_cons_succ, List.foldr_cons]
      omega

/-- Putting an element at the end of a list raises a sum over it by what the element adds. -/
theorem foldr_add_concat {α : Type} (f : α → Nat) (xs : List α) (x : α) :
  (xs ++ [x]).foldr (fun a n => f a + n) 0 = xs.foldr (fun a n => f a + n) 0 + f x
  := by
  induction xs with
  | nil => simp
  | cons a xs ih =>
    simp only [List.cons_append, List.foldr_cons, ih]
    omega

/-! ### The load of a run -/

/-- An action that has begun weighs less than one that has not. -/
theorem Run.load_of_le (run : Run) (now : Nat) (action : Action) :
  ({ run with activity := .of now action } : Run).load
    ≤ ({ run with activity := .ready } : Run).load + 2
  := by
  unfold Activity.of
  split <;> simp [load, undone, uncleaned]

/-- Every step of a run lowers its load. -/
theorem Run.Next.load_lt {id : RunId} {now : Nat} {run run' : Run} {facts : List Fact}
    (h : Run.Next id now run facts run') :
  run'.load < run.load
  := by
  cases h with
  | @beginBody action hphase hready hnext =>
    have hlt : run.begun < run.body.length := (List.getElem?_eq_some_iff.mp hnext).1
    apply Nat.lt_of_le_of_lt (load_of_le { run with begun := run.begun + 1 } now action)
    simp only [load, undone, uncleaned, hready]
    omega
  | @beginCleanUp action cancelled hphase hready hnext =>
    have hlt : run.cleaned < run.cleanUp.length := (List.getElem?_eq_some_iff.mp hnext).1
    apply Nat.lt_of_le_of_lt (load_of_le { run with cleaned := run.cleaned + 1 } now action)
    simp only [load, undone, uncleaned, hready]
    omega
  | call hcalling hmakes => simp [load, undone, uncleaned, hcalling]
  | takeUp hreturned => simp [load, undone, uncleaned, hreturned]
  | wake hwaiting hdue => simp [load, undone, uncleaned, hwaiting]
  | stop ticket hphase => simp [load, undone, uncleaned, hphase]
  | drain hphase hready hnext => simp [load, undone, uncleaned, hphase]
  | leave hphase hready => simp [load, undone, uncleaned, hphase]
  | finish hphase hready hnext => simp [load, undone, uncleaned, hphase]

namespace Server

variable (s : Server)

/-! ### The load of the server -/

/-- The part of the server's load that comes from its runs and requests, as a function of
these. -/
theorem load_congr {s t : Server} (hruns : s.runs = t.runs) (hpending : s.pending = t.pending) :
  s.load = t.load
  := by
  simp only [load, hruns, hpending]

/-- Changing a run changes the load by the difference. -/
theorem load_updateRun {id : RunId} {run : Run} (hrun : s.runs[id]? = some run)
    (f : Run → Run) :
  (s.updateRun id f).load + run.load = s.load + (f run).load
  := by
  have h := foldr_add_set Run.load hrun (f run)
  simp only [updateRun_eq s hrun, load]
  omega

theorem load_await (p : Pending) :
  (s.await p).load = s.load + pendingLoad p
  := by
  simp only [await, load, foldr_add_concat]
  omega

/-- A server with a request put forward, whatever else has changed but the runs. -/
theorem load_set {s t : Server} {i : Nat} {p q : Pending} (h : s.pending[i]? = some p)
    (hruns : t.runs = s.runs) (hpending : t.pending = s.pending.set i q) :
  t.load + pendingLoad p = s.load + pendingLoad q
  := by
  have hset := foldr_add_set pendingLoad h q
  simp only [load, hruns, hpending]
  omega

/-- A server with a request answered, whatever else has changed but the runs. -/
theorem load_lt_of_eraseIdx {s t : Server} {i : Nat} {p : Pending}
    (h : s.pending[i]? = some p) (hruns : t.runs = s.runs)
    (hpending : t.pending = s.pending.eraseIdx i) :
  t.load < s.load
  := by
  have herase := foldr_add_eraseIdx pendingLoad h
  have hpos : 0 < pendingLoad p := by
    cases p <;> simp only [pendingLoad] <;> omega
  simp only [load, hruns, hpending]
  omega

/-- A stop that claims the end of a run saves a step of the run. -/
theorem load_claim? {ticket : Ticket} {id : RunId} {s' : Server}
    (h : s.claim? ticket id = some s') :
  s'.load + 1 = s.load
  := by
  obtain ⟨run, hrun, hphase, rfl⟩ := exists_of_claim? s h
  have hupdate := load_updateRun s hrun fun r => { r with phase := .draining true }
  have hrunLoad : ({ run with phase := .draining true } : Run).load + 1 = run.load := by
    simp only [Run.load, Run.undone, Run.uncleaned, hphase]
    omega
  apply Nat.add_right_cancel (m := run.load - 1)
  rw [load_congr (t := s.updateRun id fun r => { r with phase := .draining true })]
  · omega
  · split <;> rfl
  · split <;> rfl

/-- A stop adds no more than it saves. -/
theorem load_stop_le (ticket : Ticket) (asker : Asker) (file : String) :
  (s.stop ticket asker file).load ≤ s.load
  := by
  rw [stop]
  split
  · apply Nat.le_of_eq (load_congr rfl rfl)
  · split
    · apply Nat.le_of_eq (load_congr rfl rfl)
    · rename_i id s' h
      obtain ⟨id', -, h⟩ := Option.bind_eq_some_iff.mp h
      obtain ⟨s'', hclaim, heq⟩ := Option.map_eq_some_iff.mp h
      obtain ⟨rfl, rfl⟩ := Prod.mk.inj heq
      have hload := load_claim? s hclaim
      rw [load_await, pendingLoad]
      omega

theorem load_react_le (invocation : Invocation) (behaviour : Behaviour) :
  (s.react invocation behaviour).load ≤ s.load
  := by
  unfold react
  split
  · apply Nat.le_of_eq (load_congr rfl rfl)
  · apply load_stop_le
  · apply Nat.le_refl

theorem load_call_le (caller : Option Work) (c : Call) :
  (s.call caller c).load ≤ s.load
  := load_react_le (s.record (.called caller c)) _ _

theorem load_carryOut_le (work : Work) :
  (s.carryOut work).load ≤ s.load
  := by
  rw [carryOut]
  split
  · apply Nat.le_refl
  · rw [callCommand]
    split
    · apply load_call_le (s.log _)
    · apply load_call_le
  · split
    · apply Nat.le_of_eq (load_congr rfl rfl)
    · rename_i s' outcome h
      obtain ⟨⟨a, rest⟩, -, heq⟩ := Option.map_eq_some_iff.mp h
      obtain ⟨rfl, -⟩ := Prod.mk.inj heq
      apply load_call_le { s with awaiting := rest }

/-- A server whose run has taken a step, whatever else has changed but the requests. -/
theorem load_lt_of_next {s t : Server} {id : RunId} {run run' : Run} {facts : List Fact}
    (hrun : s.runs[id]? = some run) (hnext : Run.Next id s.clock run facts run')
    (hruns : t.runs = s.runs.set id run') (hpending : t.pending = s.pending) :
  t.load < s.load
  := by
  have hset := foldr_add_set Run.load hrun run'
  have hlt := hnext.load_lt
  simp only [load, hruns, hpending]
  omega

theorem load_proceed_lt {id : RunId} {run : Run} (hrun : s.runs[id]? = some run)
    (hready : run.activity = .ready) (hcan : run.canMove s.clock) :
  (s.proceed id run).load < s.load
  := by
  have hmodify := fun f => congrArg runs (updateRun_eq s hrun f)
  rw [proceed]
  split
  · rename_i hphase
    split
    · rename_i hnext
      exact load_lt_of_next hrun (.drain hphase hready hnext) (hmodify _) rfl
    · rename_i action hnext
      obtain ⟨turns, -, h⟩ := updateRun_engage_eq
        (((s.updateTimeline run.key fun t => { t with begun := t.begun + 1 }).log
          (.beginning run.key action)).record (.began ⟨id, false, action⟩))
        ⟨id, false, action⟩ hrun fun r => { r with begun := r.begun + 1 }
      simp only [beginBody, h]
      exact load_lt_of_next hrun (.beginBody hphase hready hnext) rfl rfl
  · rename_i hphase
    rw [leaveBody]
    split
    · exact load_lt_of_next hrun (.leave hphase hready) (hmodify _) rfl
    · exact load_lt_of_next hrun (.leave hphase hready) (hmodify _) rfl
  · rename_i cancelled hphase
    split
    · rename_i hnext
      exact load_lt_of_next hrun (.finish hphase hready hnext) (hmodify _) rfl
    · rename_i action hnext
      obtain ⟨turns, -, h⟩ := updateRun_engage_eq (s.record (.began ⟨id, true, action⟩))
        ⟨id, true, action⟩ hrun fun r => { r with cleaned := r.cleaned + 1 }
      simp only [beginCleanUp, h]
      exact load_lt_of_next hrun (.beginCleanUp hphase hready hnext) rfl rfl
  · rename_i cancelled hphase
    simp [Run.canMove, hready, hphase] at hcan

/-- Every step of a run that can take one lowers the load. -/
theorem load_work_lt {id : RunId} (hcan : s.canWork id) :
  (s.work id).load < s.load
  := by
  rw [canWork] at hcan
  rw [work]
  split
  · rename_i hrun
    simp [hrun] at hcan
  · rename_i run hrun
    have hmodify := fun f => congrArg runs (updateRun_eq s hrun f)
    simp only [hrun] at hcan
    split
    · rename_i hready
      apply load_proceed_lt s hrun hready hcan
    · rename_i action hcalling
      unfold handle
      simp only
      generalize s.failure? ⟨id, run.isCleaning, action⟩ = error
      have hactivity := load_updateRun s hrun fun r => { r with activity := .returned action error }
      have hrunLoad : ({ run with activity := .returned action error } : Run).load + 1
          = run.load := by
        simp only [Run.load, Run.undone, Run.uncleaned, hcalling]
      have hcarry := load_carryOut_le (s.setActivity id (.returned action error))
        ⟨id, run.isCleaning, action⟩
      apply Nat.lt_of_le_of_lt hcarry
      simp only [setActivity]
      omega
    · rename_i action error hreturned
      unfold takeUp
      simp only
      split
      · exact load_lt_of_next hrun (.takeUp hreturned) (hmodify _) rfl
      · exact load_lt_of_next hrun (.takeUp hreturned) (hmodify _) rfl
      · exact load_lt_of_next hrun (.takeUp hreturned) (hmodify _) rfl
    · rename_i line milliseconds deadline hwaiting
      simp only
      split
      · rename_i hphase
        exact load_lt_of_next hrun (.wake hwaiting (.inl hphase)) (hmodify _) rfl
      · rename_i hphase
        have hdue : deadline ≤ s.clock := by
          simpa [Run.canMove, hwaiting, hphase] using hcan
        rw [if_pos hdue]
        exact load_lt_of_next hrun (.wake hwaiting (.inr hdue)) (hmodify _) rfl

/-- Every step of a request that can take one lowers the load. -/
theorem load_serve_lt {i : Nat} (hcan : s.canServe i) :
  (s.serve i).load < s.load
  := by
  rw [canServe] at hcan
  split at hcan
  · rename_i p hp
    rw [serve]
    simp only [hp, hcan, Bool.not_true, Bool.false_eq_true, if_false]
    split
    · exact load_lt_of_eraseIdx hp rfl rfl
    · exact load_lt_of_eraseIdx hp rfl rfl
    · rename_i ticket id rest count
      have hset := load_set hp (t := ({ s with
        pending := s.pending.set i (.stoppingAll ticket none rest (count + 1)) }.log
          (.stopped (s.runName id)))) rfl rfl
      simp only [pendingLoad, Option.isSome_some, Option.isSome_none, if_true,
        Bool.false_eq_true, if_false] at hset
      omega
    · rename_i ticket id rest count
      split
      · have hset := load_set hp (t := { s with
          pending := s.pending.set i (.stoppingAll ticket none rest count) }) rfl rfl
        simp only [pendingLoad, List.length_cons] at hset
        omega
      · rename_i s' hclaim
        have hload := load_claim? s hclaim
        rw [← pending_claim? s hclaim] at hp
        have hset := load_set hp (t := { s' with
          pending := s'.pending.set i (.stoppingAll ticket (some id) rest count) }) rfl rfl
        simp only [pendingLoad, List.length_cons, Option.isSome_some, Option.isSome_none,
          if_true, Bool.false_eq_true, if_false] at hset
        omega
    · rename_i ticket count
      apply load_lt_of_eraseIdx hp
      · split <;> rfl
      · split <;> rfl
  · cases hcan

theorem load_step_lt {move : Move} (h : s.isEnabled move) :
  (s.step move).load < s.load
  := by
  cases move with
  | work id => apply load_work_lt s h
  | serve i => apply load_serve_lt s h

/-! ### Settling step by step -/

theorem settleIn_induction {P : Server → Prop} (hstep : ∀ s move, P s → P (s.step move)) (n : Nat) :
  ∀ s : Server, P s → P (settleIn n s)
  := by
  induction n with
  | zero =>
    intro s hs
    exact hs
  | succ n ih =>
    intro s hs
    rw [settleIn]
    split
    · exact hs
    · rename_i move rest hmoves
      apply ih _ (hstep s move hs)

/-- What every step keeps is kept as everything settles. -/
theorem settle_induction {P : Server → Prop} (hstep : ∀ s move, P s → P (s.step move)) (hs : P s) :
  P s.settle
  := settleIn_induction hstep s.load s hs

theorem settle_changes :
  Changes s s.settle
  := by
  apply settle_induction s _ Relation.ReflTransGen.refl
  intro t move ht
  apply ht.trans (step_changes t move)

theorem steady_clock :
  Steady clock
  := by
  constructor <;> intros <;> rfl

/-- Settling takes no time. -/
@[simp]
theorem clock_settle :
  s.settle.clock = s.clock
  := by
  apply settle_induction s (P := fun t => t.clock = s.clock) _ rfl
  intro t move ht
  rw [steady_clock.step _ (fun _ _ => rfl), ht]

/-! ### Where nothing can move -/

/-- The moves that are listed are possible. -/
theorem isEnabled_of_mem_moves {move : Move} (h : move ∈ s.moves) :
  s.isEnabled move
  := by
  simp only [moves, List.mem_append, List.mem_map, List.mem_filter] at h
  rcases h with ⟨i, ⟨-, hi⟩, rfl⟩ | ⟨id, ⟨-, hid⟩, rfl⟩
  · apply hi
  · apply hid

theorem moves_settleIn (n : Nat) :
  ∀ s : Server, s.load ≤ n → (settleIn n s).moves = []
  := by
  induction n with
  | zero =>
    intro s hload
    apply List.eq_nil_iff_forall_not_mem.mpr
    intro move hmem
    have := load_step_lt s (isEnabled_of_mem_moves s hmem)
    omega
  | succ n ih =>
    intro s hload
    rw [settleIn]
    split
    · assumption
    · rename_i move rest hmoves
      apply ih
      have hmem : move ∈ s.moves := by simp [hmoves]
      have := load_step_lt s (isEnabled_of_mem_moves s hmem)
      omega

/-- Once everything has settled, nothing can move. -/
theorem moves_settle :
  s.settle.moves = []
  := moves_settleIn s.load s (Nat.le_refl _)

/-- Every run has its turn. -/
theorem Reachable.mem_turns {s : Server} (h : Reachable s) :
  ∀ id < s.runs.length, id ∈ s.turns
  := by
  induction h with
  | new settings commands awaiting =>
    intro id hid
    cases hid
  | change _ hchange ih =>
    cases hchange with
    | aside commands awaiting hturns hclock =>
      intro id hid
      apply hturns (ih id hid)
    | record fact hrun hstops => apply ih
    | enroll key =>
      intro id hid
      rw [enroll] at hid ⊢
      split at hid <;> split <;> apply ih id hid
    | launch o body cleanUp hidle hknown hbody hcleanUp =>
      intro id hid
      apply (mem_turns_yieldTurn _ _ _).mpr
      simp only [List.length_append, List.length_singleton] at hid
      rcases Nat.lt_succ_iff_lt_or_eq.mp hid with hlt | rfl
      · exact .inl (ih id hlt)
      · exact .inr rfl
    | work hrun hnext hfollows =>
      intro id hid
      apply ih id
      simpa using hid
    | serve hserved => apply ih

/-- Where nothing can move, no run can take a step. -/
theorem Reachable.canWork_eq_false {s : Server} (hreachable : Reachable s) (h : s.moves = [])
    (id : RunId) :
  s.canWork id = false
  := by
  by_contra hcan
  have hcan : s.canWork id = true := by simpa using hcan
  have hlt : id < s.runs.length := by
    rw [canWork] at hcan
    split at hcan
    · rename_i run hrun
      apply (List.getElem?_eq_some_iff.mp hrun).1
    · cases hcan
  have hmem : Move.work id ∈ s.moves := by
    simp only [moves, List.mem_append, List.mem_map, List.mem_filter]
    exact .inr ⟨id, ⟨hreachable.mem_turns id hlt, hcan⟩, rfl⟩
  simp [h] at hmem

/-- Where nothing can move, every run that waits does so for a later time. -/
theorem Reachable.clock_lt {s : Server} (hreachable : Reachable s) (h : s.moves = [])
    {deadline : Nat} (hmem : deadline ∈ s.deadlines) :
  s.clock < deadline
  := by
  obtain ⟨run, hrun, hdeadline⟩ := List.mem_filterMap.mp hmem
  obtain ⟨id, hid, rfl⟩ := List.mem_iff_getElem.mp hrun
  have hcan := hreachable.canWork_eq_false h id
  simp only [canWork, List.getElem?_eq_getElem hid, Run.canMove] at hcan
  split at hdeadline
  · rename_i line milliseconds deadline' hwaiting
    obtain rfl := Option.some.inj hdeadline
    simp only [hwaiting, Bool.or_eq_false_iff, decide_eq_false_iff_not] at hcan
    omega
  · cases hdeadline

/-! ### Letting time pass -/

/-- When a wait is over something can move. -/
theorem Reachable.moves_setClock_ne_nil {s : Server} (h : Reachable s) {deadline : Nat}
    (hmem : deadline ∈ s.deadlines) :
  (s.setClock deadline).moves ≠ []
  := by
  obtain ⟨run, hrun, hdeadline⟩ := List.mem_filterMap.mp hmem
  obtain ⟨id, hid⟩ := List.mem_iff_getElem?.mp hrun
  have hturn := h.mem_turns id (List.getElem?_eq_some_iff.mp hid).1
  have hcan : (s.setClock deadline).canWork id := by
    simp only [canWork, setClock, hid, Run.canMove]
    split at hdeadline
    · rename_i line milliseconds deadline' hwaiting
      obtain rfl := Option.some.inj hdeadline
      simp [hwaiting]
    · cases hdeadline
  have hwork : Move.work id ∈ (s.setClock deadline).moves := by
    apply List.mem_append_right
    apply List.mem_map_of_mem
    apply List.mem_filter.mpr ⟨hturn, hcan⟩
  apply List.ne_nil_of_mem hwork

theorem load_settleIn_le (n : Nat) :
  ∀ s : Server, (settleIn n s).load ≤ s.load
  := by
  induction n with
  | zero =>
    intro s
    apply Nat.le_refl
  | succ n ih =>
    intro s
    rw [settleIn]
    split
    · apply Nat.le_refl
    · rename_i move rest hmoves
      have hmem : move ∈ s.moves := by simp [hmoves]
      have hlt := load_step_lt s (isEnabled_of_mem_moves s hmem)
      apply Nat.le_trans (ih _) (Nat.le_of_lt hlt)

/-- Settling lowers the load, if anything can move. -/
theorem load_settle_lt (hmoves : s.moves ≠ []) :
  s.settle.load < s.load
  := by
  obtain ⟨move, rest, hcons⟩ := List.exists_cons_of_ne_nil hmoves
  have hmem : move ∈ s.moves := by simp [hcons]
  have hlt := load_step_lt s (isEnabled_of_mem_moves s hmem)
  obtain ⟨n, hn⟩ := Nat.exists_eq_succ_of_ne_zero (Nat.ne_zero_of_lt hlt)
  rw [settle, hn, settleIn, hcons]
  apply Nat.lt_of_le_of_lt (load_settleIn_le n _)
  rwa [← hn]

/-- A server without a load waits for nothing. -/
theorem Reachable.deadlines_eq_nil {s : Server} (h : Reachable s) (hload : s.load ≤ 0) :
  s.deadlines = []
  := by
  apply List.eq_nil_iff_forall_not_mem.mpr
  intro deadline hmem
  have hlt := load_settle_lt _ (h.moves_setClock_ne_nil hmem)
  apply Nat.not_lt_zero _ (Nat.lt_of_lt_of_le hlt hload)

/-- What is kept as everything settles, and as the clock is put forward where nothing can move and
no further than to the next instant that a run waits for, is kept as time passes. -/
theorem Reachable.advanceIn_induction {P : Server → Prop} (hsettle : ∀ s : Server, P s → P s.settle)
    (hclock : ∀ (s : Server) (time : Nat), s.moves = [] → s.clock ≤ time →
      (∀ deadline ∈ s.deadlines, time ≤ deadline) → P s → P (s.setClock time))
    (target n : Nat) :
  ∀ {s : Server}, s.Reachable → s.moves = [] → s.load ≤ n → s.clock ≤ target → P s →
    P (s.advanceIn target n)
  := by
  induction n with
  | zero =>
    intro s h hmoves hload htarget hs
    apply hclock s target hmoves htarget _ hs
    simp [h.deadlines_eq_nil hload]
  | succ n ih =>
    intro s h hmoves hload htarget hs
    rw [advanceIn]
    split
    · rename_i hnone
      apply hclock s target hmoves htarget _ hs
      intro deadline hmem
      have hlate := List.filter_eq_nil_iff.mp (List.min?_eq_none_iff.mp hnone) deadline hmem
      simp only [decide_eq_true_eq] at hlate
      omega
    · rename_i time htime
      obtain ⟨hmem, hleast⟩ := List.min?_eq_some_iff.mp htime
      obtain ⟨hdeadline, hle⟩ := List.mem_filter.mp hmem
      have hlater : s.clock ≤ time := Nat.le_of_lt (h.clock_lt hmoves hdeadline)
      have hdue : ∀ deadline ∈ s.deadlines, time ≤ deadline := by
        intro deadline hother
        by_cases hsoon : deadline ≤ target
        · exact hleast deadline (List.mem_filter.mpr ⟨hother, by simpa using hsoon⟩)
        · simp only [decide_eq_true_eq] at hle
          omega
      have hreachable := h.changes (setClock_changes s hlater)
      apply ih (hreachable.changes (settle_changes _)) (moves_settle _)
      · apply Nat.le_of_lt_succ
        apply Nat.lt_of_lt_of_le (load_settle_lt _ (h.moves_setClock_ne_nil hdeadline)) hload
      · simp only [clock_settle, setClock]
        simpa using hle
      · apply hsettle _ (hclock s time hmoves hlater hdue hs)

theorem Reachable.advance_induction {P : Server → Prop} (hsettle : ∀ s : Server, P s → P s.settle)
    (hclock : ∀ (s : Server) (time : Nat), s.moves = [] → s.clock ≤ time →
      (∀ deadline ∈ s.deadlines, time ≤ deadline) → P s → P (s.setClock time))
    {s : Server} (h : s.Reachable) (hmoves : s.moves = []) (hs : P s) (milliseconds : Nat) :
  P (s.advance milliseconds)
  := h.advanceIn_induction hsettle hclock _ _ hmoves (Nat.le_refl _) (Nat.le_add_right _ _) hs

theorem Reachable.advance_changes {s : Server} (h : s.Reachable) (hmoves : s.moves = [])
    (milliseconds : Nat) :
  Changes s (s.advance milliseconds)
  := by
  apply h.advance_induction _ _ hmoves Relation.ReflTransGen.refl
  · intro t ht
    apply ht.trans (settle_changes t)
  · intro t time _ htime _ ht
    apply ht.trans (setClock_changes t htime)

end Server

end CommandTimelines
