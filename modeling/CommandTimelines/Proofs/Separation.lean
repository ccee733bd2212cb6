import CommandTimelines.Proofs.Omission

/-!
# Operations and the timeline that is left out

Whatever is done in two servers, one of which leaves out a timeline that the other one has, they
stay so (`Server.Omits`): what is asked of another timeline is done in both, and what is asked of
the one that is left out is done in the first one alone. So there are two lemmas for each operation
again. Both servers are inert, for otherwise a run could reach for other timelines; the only other
thing that timelines share is the clock, which nothing sets here.
-/

namespace CommandTimelines

open Host Script Operator

namespace Server

/-- What an operator is told of a start does not depend on the number of the run. -/
theorem errorOf?_map {α β : Type} (f : α → β) (result : Except TimelineError α) :
  errorOf? (result.map f) = errorOf? result
  := by
  cases result <;> rfl

namespace Omits

variable {cut : Cut} {s t : Server} (h : Omits cut s t)

include h

/-! ### Stops -/

theorem claim? (ticket : Ticket) {id : RunId} (hid : cut.staysRun id) :
  Option.Rel (Omits cut) (s.claim? ticket id) (t.claim? (cut.ticket ticket) (cut.run id))
  := by
  rw [Server.claim?, Server.claim?, h.getElem?_runs hid]
  split
  · exact .none
  · rename_i run hrun
    by_cases hphase : run.phase = .draining false
    · have hupdate := h.updateRun hid (f := fun r => { r with phase := .draining true })
        fun _ => rfl
      simp only [hphase, if_true]
      apply Option.Rel.some
      apply log
      apply record _ (.claimed id _) (.claimed (cut.run id) _) rfl
      split
      · exact hupdate.yieldTurn hid
      · exact hupdate
    · simp only [hphase, if_false]
      exact .none

theorem claim?_left {ticket : Ticket} {id : RunId} (hid : cut.staysRun id = false) {s' : Server}
    (hclaim : s.claim? ticket id = some s') :
  Omits cut s' t
  := by
  obtain ⟨run, hrun, hphase, rfl⟩ := exists_of_claim? s hclaim
  have hupdate := h.updateRun_left hid (f := fun r => { r with phase := .draining true })
    fun _ => rfl
  apply log_left
  apply record_left _ (.claimed id _) rfl
  split
  · exact hupdate.yieldTurn_left hid
  · exact hupdate

theorem stop (hs : s.Kept) {ticket : Ticket} (hticket : cut.staysTicket ticket) (asker : Asker)
    {file : String} (hfile : Path.key? file ≠ some cut.key) :
  Omits cut (s.stop ticket asker file) (t.stop (cut.ticket ticket) asker file)
  := by
  rw [Server.stop, Server.stop]
  split
  · exact h.answer hticket _
  · rename_i key hkey
    have hother : key ≠ cut.key := by
      rintro rfl
      exact hfile hkey
    rw [h.currentRun? hother]
    cases hcurrent : s.currentRun? key with
    | none => exact h.answer hticket _
    | some id =>
      have hid : cut.staysRun id := by simp [h.staysRun_of_current hs hcurrent, hother]
      have hclaim := h.claim? ticket hid
      simp only [Option.bind_some, Option.map_some]
      generalize s.claim? ticket id = a at hclaim
      generalize t.claim? (cut.ticket ticket) (cut.run id) = b at hclaim
      cases hclaim with
      | none => exact h.answer hticket _
      | some hclaimed =>
        exact hclaimed.await (.stopping asker (hticket.trans hid.symm))
          (by simp [Cut.pending?, hid])

theorem stop_left (hs : s.Kept) {ticket : Ticket} (hticket : cut.staysTicket ticket = false)
    (asker : Asker) {file : String} (hfile : Path.key? file = some cut.key) :
  Omits cut (s.stop ticket asker file) t
  := by
  rw [Server.stop, hfile]
  simp only
  split
  · exact h.answer_left hticket _
  · rename_i id s' hclaimed
    obtain ⟨current, hcurrent, hclaimed⟩ := Option.bind_eq_some_iff.mp hclaimed
    obtain ⟨s'', hclaim, heq⟩ := Option.map_eq_some_iff.mp hclaimed
    obtain ⟨rfl, rfl⟩ := Prod.mk.inj heq
    have hid : cut.staysRun current = false := by simp [h.staysRun_of_current hs hcurrent]
    exact (h.claim?_left hid hclaim).await_left (.stopping asker (hticket.trans hid.symm))
      (by simp [Cut.pending?, hid])

theorem awaitEnd? (hs : s.Kept) {ticket : Ticket} (hticket : cut.staysTicket ticket)
    {file : String} (hfile : Path.key? file ≠ some cut.key) :
  Option.Rel (Omits cut) (s.awaitEnd? ticket file) (t.awaitEnd? (cut.ticket ticket) file)
  := by
  rw [Server.awaitEnd?, Server.awaitEnd?]
  cases hkey : Path.key? file with
  | none => exact .none
  | some key =>
    have hother : key ≠ cut.key := by
      rintro rfl
      exact hfile hkey
    simp only [Option.bind_some, h.currentRun? hother]
    cases hcurrent : s.currentRun? key with
    | none => exact .none
    | some id =>
      have hid : cut.staysRun id := by simp [h.staysRun_of_current hs hcurrent, hother]
      exact .some (h.await (.finishing (hticket.trans hid.symm)) (by simp [Cut.pending?, hid]))

theorem awaitEnd?_left (hs : s.Kept) {ticket : Ticket} (hticket : cut.staysTicket ticket = false)
    {file : String} (hfile : Path.key? file = some cut.key) {s' : Server}
    (hawait : s.awaitEnd? ticket file = some s') :
  Omits cut s' t
  := by
  obtain ⟨id, hfound, rfl⟩ := Option.map_eq_some_iff.mp hawait
  rw [hfile] at hfound
  have hid : cut.staysRun id = false := by simp [h.staysRun_of_current hs hfound]
  exact h.await_left (.finishing (hticket.trans hid.symm)) (by simp [Cut.pending?, hid])

/-- What is left of the requests around one that stays. -/
theorem pending_eq {before after : List Pending} {p p' : Pending}
    (hpending : s.pending = before ++ p :: after) (hp : cut.pending? p = some p') :
  t.pending = before.filterMap cut.pending? ++ p' :: after.filterMap cut.pending?
  := by
  rw [h.pending, hpending, List.filterMap_append, List.filterMap_cons_some hp]

/-- A request that stays is put forward in both servers. -/
theorem serve {before after : List Pending} {p p' : Pending}
    (hpending : s.pending = before ++ p :: after) (hp : cut.pending? p = some p') :
  Omits cut (s.serve before.length) (t.serve (before.filterMap cut.pending?).length)
  := by
  have hfits := h.fits p (by simp [hpending])
  have hothers : ∀ q ∈ before ++ after, cut.Fits q := by
    intro q hq
    apply h.fits q
    rw [hpending]
    rcases List.mem_append.mp hq with hq | hq
    · exact List.mem_append_left _ hq
    · exact List.mem_append_right _ (List.mem_cons_of_mem _ hq)
  have hdone := h.setPending _ hothers
  rw [List.filterMap_append] at hdone
  rw [Server.serve, Server.serve, hpending, h.pending_eq hpending hp]
  simp only [List.getElem?_append_right (Nat.le_refl _), Nat.sub_self, List.getElem?_cons_zero,
    h.isDue hp]
  split
  · exact h
  · cases hfits with
    | @stopping ticket id asker hticket =>
      obtain ⟨hid, heq⟩ := Option.ite_none_right_eq_some.mp hp
      obtain rfl := Option.some.inj heq
      simp only [List.eraseIdx_append_of_length_le, Nat.le_refl, Nat.sub_self,
        List.eraseIdx_cons_zero]
      exact (hdone.log _ _).answer (hticket.trans hid) _
    | @finishing ticket id hticket =>
      obtain ⟨hid, heq⟩ := Option.ite_none_right_eq_some.mp hp
      obtain rfl := Option.some.inj heq
      simp only [List.eraseIdx_append_of_length_le, Nat.le_refl, Nat.sub_self,
        List.eraseIdx_cons_zero, h.runState hid]
      exact hdone.answer (hticket.trans hid) _

theorem serve_left {i : Nat} {p : Pending} (hi : s.pending[i]? = some p)
    (hp : cut.pending? p = none) :
  Omits cut (s.serve i) t
  := by
  have hfits := h.fits p (List.mem_of_getElem? hi)
  have hdone : Omits cut { s with pending := s.pending.eraseIdx i } t :=
    h.setPending_left (fun q hq => h.fits q (List.mem_of_mem_eraseIdx hq))
      (filterMap_of_none cut.pending? hi hp).2
  rw [Server.serve, hi]
  simp only
  split
  · exact h
  · cases hfits with
    | @stopping ticket id asker hticket =>
      have hid : cut.staysRun id = false := by simpa [Cut.pending?] using hp
      exact (hdone.log_left _).answer_left (hticket.trans hid) _
    | @finishing ticket id hticket =>
      have hid : cut.staysRun id = false := by simpa [Cut.pending?] using hp
      exact hdone.answer_left (hticket.trans hid) _

/-! ### Calls -/

theorem register {c : Command} (hc : c.behaviour.isInert) :
  Omits cut (s.register c) (t.register c)
  where
  __ := h
  commands := by rw [Server.register, Server.register, h.commands]
  inert :=
    { h.inert with
      commands := by
        intro other hother
        rcases List.mem_append.mp hother with hother | hother
        · exact h.inert.commands other hother
        · rw [List.mem_singleton.mp hother]
          exact hc }

/-- The call of a command that does nothing to the server. -/
theorem callCommand {c : Command} (hc : c.behaviour.isInert) (caller caller' : Option Work)
    (hcaller : ∀ call, cut.fact? (.called caller call) = some (.called caller' call))
    (invocation : Invocation) :
  Omits cut (s.callCommand caller c invocation) (t.callCommand caller' c invocation)
  := by
  unfold Server.callCommand
  simp only [Server.call, react_of_isInert _ (show Target.behaviour (.command c) |>.isInert from hc)]
  split
  · exact (h.log _ _).record _ _ (hcaller _)
  · exact h.record _ _ (hcaller _)

theorem callCommand_left {c : Command} (hc : c.behaviour.isInert) (caller : Option Work)
    (hcaller : ∀ call, cut.fact? (.called caller call) = none) (invocation : Invocation) :
  Omits cut (s.callCommand caller c invocation) t
  := by
  unfold Server.callCommand
  simp only [Server.call, react_of_isInert _ (show Target.behaviour (.command c) |>.isInert from hc)]
  split
  · exact (h.log_left _).record_left _ (hcaller _)
  · exact h.record_left _ (hcaller _)

omit h in
theorem callEach (invocation : Invocation) {found : List Command}
    (hfound : ∀ c ∈ found, c.behaviour.isInert) :
  ∀ {s t : Server}, Omits cut s t →
    Omits cut (s.callEach invocation found).1 (t.callEach invocation found).1 ∧
    (s.callEach invocation found).2 = (t.callEach invocation found).2
  := by
  induction found with
  | nil =>
    intro s t h
    exact ⟨h, rfl⟩
  | cons c rest ih =>
    intro s t h
    rw [List.forall_mem_cons] at hfound
    obtain ⟨hcalled, houtcomes⟩ :=
      ih hfound.2 (h.callCommand hfound.1 none none (fun _ => rfl) invocation)
    rw [Server.callEach, Server.callEach]
    exact ⟨hcalled, congrArg (c.behaviour.outcome :: ·) houtcomes⟩

theorem take_eq_none (key : String) :
  Awaiting.take s.awaiting key = none ∧ Awaiting.take t.awaiting key = none
  := by
  rw [h.awaiting, h.inert.awaiting]
  exact ⟨rfl, rfl⟩

theorem failure? (work : Work) :
  t.failure? (cut.work work) = s.failure? work
  := by
  rw [Server.failure?, h.awaiting, Server.failure?]
  rfl

theorem carryOut {work : Work} (hid : cut.staysRun work.run) (hinert : work.action.IsInert) :
  Omits cut (s.carryOut work) (t.carryOut (cut.work work))
  := by
  obtain ⟨id, ofCleanUp, action⟩ := work
  rw [Server.carryOut, Server.carryOut]
  cases action with
  | delay line milliseconds => exact h
  | invoke line name c raw silent args =>
    exact h.callCommand hinert (some _) (some _) (fun call => if_pos hid) _
  | deliver line key raw args =>
    have htake := h.take_eq_none key
    simp only [Cut.work, Server.respond?, htake.1, htake.2, Option.map_none]
    exact h.log _ _

theorem carryOut_left {work : Work} (hid : cut.staysRun work.run = false)
    (hinert : work.action.IsInert) :
  Omits cut (s.carryOut work) t
  := by
  obtain ⟨id, ofCleanUp, action⟩ := work
  rw [Server.carryOut]
  cases action with
  | delay line milliseconds => exact h
  | invoke line name c raw silent args =>
    exact h.callCommand_left hinert (some _) (fun call => if_neg (by simpa using hid)) _
  | deliver line key raw args =>
    simp only [Server.respond?, (h.take_eq_none key).1, Option.map_none]
    exact h.log_left _

/-! ### The work of a run -/

theorem setActivity {id : RunId} (hid : cut.staysRun id) (activity : Activity) :
  Omits cut (s.setActivity id activity) (t.setActivity (cut.run id) activity)
  := h.updateRun hid fun _ => rfl

theorem setActivity_left {id : RunId} (hid : cut.staysRun id = false) (activity : Activity) :
  Omits cut (s.setActivity id activity) t
  := h.updateRun_left hid fun _ => rfl

theorem conclude {work : Work} (hid : cut.staysRun work.run) (error : Option StepError) :
  Omits cut (s.conclude work error) (t.conclude (cut.work work) error)
  := by
  have hover := h.record (.over work error) (.over (cut.work work) error) rfl
  exact hover.setActivity hid _

theorem conclude_left {work : Work} (hid : cut.staysRun work.run = false)
    (error : Option StepError) :
  Omits cut (s.conclude work error) t
  := by
  have hover := h.record_left (.over work error) rfl
  exact hover.setActivity_left hid _

theorem engage (work : Work) (hid : cut.staysRun work.run) :
  Omits cut (s.engage work) (t.engage (cut.work work))
  := by
  have haction : (cut.work work).action = work.action := rfl
  rw [Server.engage, Server.engage, haction, h.clock]
  split
  · exact h.conclude hid none
  · exact h.setActivity hid _
  · exact (h.setActivity hid _).yieldTurn hid

theorem engage_left (work : Work) (hid : cut.staysRun work.run = false) :
  Omits cut (s.engage work) t
  := by
  rw [Server.engage]
  split
  · exact h.conclude_left hid none
  · exact h.setActivity_left hid _
  · exact (h.setActivity_left hid _).yieldTurn_left hid

theorem proceed {id : RunId} (hid : cut.staysRun id) {run : Run} (hkey : run.key ≠ cut.key) :
  Omits cut (s.proceed id run) (t.proceed (cut.run id) run)
  := by
  rw [Server.proceed, Server.proceed]
  split
  · split
    · have hclaimed := h.record (.claimed id none) (.claimed (cut.run id) none) rfl
      exact (hclaimed.log _ _).updateRun hid fun _ => rfl
    · rename_i action hnext
      have hcounted := h.updateTimeline run.key (f := fun r => { r with begun := r.begun + 1 })
        (g := fun r => { r with begun := r.begun + 1 }) (fun _ => rfl) (fun _ => rfl) fun _ => rfl
      have hbegan := (hcounted.log (.beginning run.key action) (.beginning run.key action)).record
        (.began ⟨id, false, action⟩) (.began ⟨cut.run id, false, action⟩) rfl
      have hmoved := hbegan.updateRun hid (f := fun r => { r with begun := r.begun + 1 })
        fun _ => rfl
      exact hmoved.engage ⟨id, false, action⟩ hid
  · rw [leaveBody, leaveBody]
    split
    · exact h.updateRun hid fun _ => rfl
    · exact (h.log _ _).updateRun hid fun _ => rfl
  · split
    · rename_i cancelled hphase _ hnext
      have hended := h.updateRun hid (f := fun r => { r with phase := .ended cancelled })
        fun _ => rfl
      exact hended.record _ _ (by simp [Cut.fact?, Fact.isShown, Event.name, hkey])
    · rename_i action hnext
      have hbegan := h.record (.began ⟨id, true, action⟩)
        (.began ⟨cut.run id, true, action⟩) rfl
      have hmoved := hbegan.updateRun hid (f := fun r => { r with cleaned := r.cleaned + 1 })
        fun _ => rfl
      exact hmoved.engage ⟨id, true, action⟩ hid
  · exact h

theorem proceed_left {id : RunId} (hid : cut.staysRun id = false) {run : Run}
    (hkey : run.key = cut.key) :
  Omits cut (s.proceed id run) t
  := by
  rw [Server.proceed]
  split
  · split
    · have hclaimed := h.record_left (.claimed id none) rfl
      exact (hclaimed.log_left _).updateRun_left hid fun _ => rfl
    · rename_i action hnext
      have hcounted := h.updateTimeline_left (f := fun r => { r with begun := r.begun + 1 })
        fun _ => rfl
      rw [← hkey] at hcounted
      have hbegan := (hcounted.log_left (.beginning run.key action)).record_left
        (.began ⟨id, false, action⟩) rfl
      have hmoved := hbegan.updateRun_left hid (f := fun r => { r with begun := r.begun + 1 })
        fun _ => rfl
      exact hmoved.engage_left ⟨id, false, action⟩ hid
  · rw [leaveBody]
    split
    · exact h.updateRun_left hid fun _ => rfl
    · exact (h.log_left _).updateRun_left hid fun _ => rfl
  · split
    · rename_i cancelled hphase _ hnext
      have hended := h.updateRun_left hid (f := fun r => { r with phase := .ended cancelled })
        fun _ => rfl
      exact hended.record_left _ (by simp [Cut.fact?, Event.name, hkey])
    · rename_i action hnext
      have hbegan := h.record_left (.began ⟨id, true, action⟩) rfl
      have hmoved := hbegan.updateRun_left hid (f := fun r => { r with cleaned := r.cleaned + 1 })
        fun _ => rfl
      exact hmoved.engage_left ⟨id, true, action⟩ hid
  · exact h

theorem takeUp {id : RunId} (hid : cut.staysRun id) {run : Run} (hkey : run.key ≠ cut.key)
    (action : Action) (error : Option StepError) :
  Omits cut (s.takeUp id run action error) (t.takeUp (cut.run id) run action error)
  := by
  unfold Server.takeUp
  simp only
  split
  · exact h.conclude hid none
  · exact ((h.log _ _).conclude hid _).record _ _
      (by simp [Cut.fact?, Fact.isShown, Event.name, hkey])
  · exact (h.log _ _).conclude hid _

theorem takeUp_left {id : RunId} (hid : cut.staysRun id = false) {run : Run}
    (hkey : run.key = cut.key) (action : Action) (error : Option StepError) :
  Omits cut (s.takeUp id run action error) t
  := by
  unfold Server.takeUp
  simp only
  split
  · exact h.conclude_left hid none
  · exact ((h.log_left _).conclude_left hid _).record_left _ (by simp [Cut.fact?, Event.name, hkey])
  · exact (h.log_left _).conclude_left hid _

/-- A run that stays takes its next step in both servers. -/
theorem work (hs : s.Reachable) {id : RunId} (hid : cut.staysRun id) :
  Omits cut (s.work id) (t.work (cut.run id))
  := by
  rw [Server.work, Server.work, h.getElem?_runs hid]
  split
  · exact h
  · rename_i run hrun
    have hkey := h.key_ne hid hrun
    split
    · exact h.proceed hid hkey
    · rename_i action hcalling
      have hinert : action.IsInert :=
        h.inert.of_action? hs hrun (by simp [hcalling, Activity.action?])
      rw [handle, handle, ← h.failure? ⟨id, run.isCleaning, action⟩]
      exact ((h.setActivity hid _).carryOut hid hinert).yieldTurn hid
    · exact h.takeUp hid hkey _ _
    · simp only [h.clock]
      split
      · exact (h.log _ _).conclude hid none
      · split
        · exact h.conclude hid none
        · exact h

/-- A run that is struck out takes its next step. -/
theorem work_left (hs : s.Reachable) {id : RunId} (hid : cut.staysRun id = false) :
  Omits cut (s.work id) t
  := by
  rw [Server.work]
  split
  · exact h
  · rename_i run hrun
    have hkey := h.key_eq hid hrun
    split
    · exact h.proceed_left hid hkey
    · rename_i action hcalling
      have hinert : action.IsInert :=
        h.inert.of_action? hs hrun (by simp [hcalling, Activity.action?])
      rw [handle]
      exact ((h.setActivity_left hid _).carryOut_left hid hinert).yieldTurn_left hid
    · exact h.takeUp_left hid hkey _ _
    · split
      · exact (h.log_left _).conclude_left hid none
      · split
        · exact h.conclude_left hid none
        · exact h

/-! ### Starts -/

theorem enroll (key : String) :
  Omits cut (s.enroll key) (t.enroll key)
  := by
  have htimeline : ∀ other, other ≠ cut.key →
      (t.enroll key).timeline? other = ((s.enroll key).timeline? other).map cut.timeline := by
    intro other hother
    rw [timeline?_enroll_eq, timeline?_enroll_eq, h.timeline? other hother]
    cases s.timeline? other with
    | some r => rfl
    | none => split <;> rfl
  obtain ⟨timelines, heq⟩ := enroll_eq s key
  obtain ⟨timelines', heq'⟩ := enroll_eq t key
  rw [heq, heq'] at htimeline ⊢
  exact { h with timeline? := htimeline, inert := { h.inert with } }

theorem enroll_left :
  Omits cut (s.enroll cut.key) t
  := by
  have htimeline : ∀ other, other ≠ cut.key →
      t.timeline? other = ((s.enroll cut.key).timeline? other).map cut.timeline := by
    intro other hother
    rw [timeline?_enroll_eq, if_neg hother, Option.or_none, h.timeline? other hother]
  obtain ⟨timelines, heq⟩ := enroll_eq s cut.key
  rw [heq] at htimeline ⊢
  exact { h with timeline? := htimeline, inert := { h.inert with } }

theorem bodyOf (o : Opening) :
  t.bodyOf o = s.bodyOf o
  := by
  rw [Server.bodyOf, scope, h.commands, h.settings, Server.bodyOf, scope]

theorem cleanUpOf (o : Opening) :
  t.cleanUpOf o = s.cleanUpOf o
  := by
  rw [Server.cleanUpOf, scope, h.commands, h.settings, Server.cleanUpOf, scope]

theorem length_runs :
  t.runs.length = cut.run s.runs.length
  := by
  rw [h.runs]
  exact length_filter_eq_rank fun _ _ => h.staysRun

theorem launch {o : Opening} (hkey : o.key ≠ cut.key) {body cleanUp : List Action}
    (hactions : ∀ action ∈ body ++ cleanUp, action.IsInert)
    (hnew : cut.Divides (s.launch o body cleanUp)) :
  Omits cut (s.launch o body cleanUp) (t.launch o body cleanUp)
  := by
  have hid : cut.staysRun s.runs.length := by
    rw [hnew s.runs.length o.key (keyOf?_of_scripts (scripts_launch s o body cleanUp))]
    simpa using hkey
  have hruns : Omits cut
      { s with runs := s.runs ++ [{ key := o.key, body, cleanUp }] }
      { t with runs := t.runs ++ [{ key := o.key, body, cleanUp }] } :=
    { h with
      stays := hnew
      runs := by simp [h.runs, hkey]
      inert := h.inert.addRun hactions }
  rw [Server.launch, Server.launch, h.length_runs]
  have hcurrent := (hruns.yieldTurn hid).updateTimeline o.key
    (f := fun r => { r with current := some s.runs.length })
    (g := fun r => { r with current := some (cut.run s.runs.length) }) (fun _ => rfl) (fun _ => rfl)
    fun _ => rfl
  exact (hcurrent.log _ _).record _ _ (by simp [Cut.fact?, Fact.isShown, Event.name, hkey])

theorem launch_left {o : Opening} (hkey : o.key = cut.key) {body cleanUp : List Action}
    (hactions : ∀ action ∈ body ++ cleanUp, action.IsInert)
    (hnew : cut.Divides (s.launch o body cleanUp)) :
  Omits cut (s.launch o body cleanUp) t
  := by
  have hid : cut.staysRun s.runs.length = false := by
    rw [hnew s.runs.length o.key (keyOf?_of_scripts (scripts_launch s o body cleanUp))]
    simpa using hkey
  have hruns : Omits cut { s with runs := s.runs ++ [{ key := o.key, body, cleanUp }] } t :=
    { h with
      stays := hnew
      runs := by simp [h.runs, hkey]
      inert := h.inert.addRun hactions }
  have hcurrent := (hruns.yieldTurn_left hid).updateTimeline_left
    (f := fun r => { r with current := some s.runs.length }) fun _ => rfl
  rw [← hkey] at hcurrent
  exact (hcurrent.log_left _).record_left _ (by simp [Cut.fact?, Event.name, hkey])

/-- A start of a timeline that stays has the same result in both servers. -/
theorem commit (hs : s.Kept) {o : Opening} (hkey : o.key ≠ cut.key)
    (hnew : cut.Divides (s.commit o).1) :
  Omits cut (s.commit o).1 (t.commit o).1 ∧ (t.commit o).2 = (s.commit o).2.map cut.run
  := by
  have henrolled := h.enroll o.key
  revert hnew
  rw [Server.commit, Server.commit, h.isActive hs hkey]
  split
  · intro hnew
    exact ⟨h, rfl⟩
  · simp only [henrolled.bodyOf]
    split
    · intro hnew
      exact ⟨henrolled.log _ _, rfl⟩
    · rename_i body hbody
      have hcompiled := henrolled.log (.compiled o.key body.length) (.compiled o.key body.length)
      rw [hcompiled.cleanUpOf, hcompiled.length_runs]
      split
      · intro hnew
        exact ⟨hcompiled.log _ _, rfl⟩
      · rename_i cleanUp hcleanUp
        intro hnew
        exact ⟨hcompiled.launch hkey (List.forall_mem_append.mpr ⟨henrolled.inert.bodyOf hbody,
          hcompiled.inert.cleanUpOf hcleanUp⟩) hnew, rfl⟩

theorem commit_left {o : Opening} (hkey : o.key = cut.key)
    (hnew : cut.Divides (s.commit o).1) :
  Omits cut (s.commit o).1 t
  := by
  have henrolled := h.enroll_left
  rw [← hkey] at henrolled
  revert hnew
  rw [Server.commit]
  split
  · intro hnew
    exact h
  · simp only
    split
    · intro hnew
      exact henrolled.log_left _
    · rename_i body hbody
      have hcompiled := henrolled.log_left (.compiled o.key body.length)
      split
      · intro hnew
        exact hcompiled.log_left _
      · rename_i cleanUp hcleanUp
        intro hnew
        exact hcompiled.launch_left hkey (List.forall_mem_append.mpr ⟨henrolled.inert.bodyOf hbody,
          hcompiled.inert.cleanUpOf hcleanUp⟩) hnew

theorem start (hs : s.Kept) (files : Files) {file : String}
    (hfile : Path.key? file ≠ some cut.key) (args : List String)
    (hnew : cut.Divides (s.start files file args).1) :
  Omits cut (s.start files file args).1 (t.start files file args).1 ∧
  (t.start files file args).2 = (s.start files file args).2.map cut.run
  := by
  revert hnew
  rw [Server.start, Server.start, h.settings]
  split
  · intro hnew
    exact ⟨h, rfl⟩
  · rename_i o hread
    intro hnew
    apply h.commit hs _ hnew
    intro hkey
    exact hfile (hkey ▸ Opening.key_of_read hread)

theorem start_left (files : Files) {file : String} (hfile : Path.key? file = some cut.key)
    (args : List String)
    (hnew : cut.Divides (s.start files file args).1) :
  Omits cut (s.start files file args).1 t
  := by
  revert hnew
  rw [Server.start]
  split
  · intro hnew
    exact h
  · rename_i o hread
    intro hnew
    apply h.commit_left _ hnew
    exact Option.some.inj ((Opening.key_of_read hread).symm.trans hfile)

/-! ### Requests of operators -/

theorem execute (hs : s.Kept) {ticket : Ticket} (hticket : cut.staysTicket ticket) (files : Files)
    (actor : Actor) {args : List String}
    (hfile : ∀ file, (Request.ofArgs args).file? = some file → Path.key? file ≠ some cut.key)
    (hnew : cut.Divides (s.execute ticket files actor args)) :
  Omits cut (s.execute ticket files actor args) (t.execute (cut.ticket ticket) files actor args)
  := by
  revert hnew
  unfold Server.execute
  simp only
  generalize Request.ofArgs args = request at hfile
  split
  · intro hnew
    exact (h.log _ _).answer hticket _
  · cases request with
    | start file args =>
      intro hnew
      obtain ⟨hstarted, hresult⟩ := h.start hs files (hfile file rfl) args hnew
      rw [grant, grant]
      simp only [hresult, errorOf?_map]
      exact hstarted.answer hticket _
    | stop file =>
      intro hnew
      exact h.stop hs hticket _ (hfile file rfl)
    | list =>
      intro hnew
      exact h.record _ _ (by simp [Cut.fact?, Fact.isShown, Reply.isListing, listing])
    | unclear file =>
      intro hnew
      exact h.answer hticket _

theorem execute_left (hs : s.Kept) {ticket : Ticket} (hticket : cut.staysTicket ticket = false)
    (files : Files) (actor : Actor) {args : List String} {file : String}
    (hrequest : (Request.ofArgs args).file? = some file) (hfile : Path.key? file = some cut.key)
    (hnew : cut.Divides (s.execute ticket files actor args)) :
  Omits cut (s.execute ticket files actor args) t
  := by
  revert hnew
  unfold Server.execute
  simp only
  generalize Request.ofArgs args = request at hrequest
  split
  · intro hnew
    exact (h.log_left _).answer_left hticket _
  · cases request with
    | start named args =>
      obtain rfl := Option.some.inj hrequest
      intro hnew
      exact (h.start_left files hfile args hnew).answer_left hticket _
    | stop named =>
      obtain rfl := Option.some.inj hrequest
      intro hnew
      exact h.stop_left hs hticket _ hfile
    | list => cases hrequest
    | unclear named =>
      intro hnew
      exact h.answer_left hticket _

end Omits

end Server

end CommandTimelines
