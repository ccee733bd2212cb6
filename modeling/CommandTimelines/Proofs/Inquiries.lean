import CommandTimelines.Proofs.Stopping

/-!
# Who waits for a run to end

Anyone who holds on to a run may ask to be told when it has ended. Here is who still waits to be told
(`Server.waiting`), and who was told what (`Server.finals`). Neither runs nor stops nor starts
change any of it: each operation of the server leaves it as it is, and there is one lemma for each of
them. What changes it is a request that asks, and one that is served (`Server.Tells`).
-/

namespace CommandTimelines

open Host Script Operator

/-- Whom a request tells of the end of a run, and which run it is. -/
def Pending.inquiry? : Pending → Option (Ticket × RunId)
  | .finishing ticket id => some (ticket, id)
  | _ => none

/-- Who was told of the end of a run, and in which state the run was. -/
def Fact.final? : Fact → Option (Ticket × RunState)
  | .answered ticket (.ended state) => some (ticket, state)
  | _ => none

namespace Server

variable (s : Server)

/-- Who waits for the end of a run, and of which one. -/
def waiting : List (Ticket × RunId) := s.pending.filterMap (·.inquiry?)

/-- Who was told of the end of a run, and in which state it was, earliest first. -/
def finals : List (Ticket × RunState) := (s.journal.filterMap (·.fact.final?)).reverse

/-- Who waits for the ends of runs, and who was told of them. -/
def inquiries : List (Ticket × RunId) × List (Ticket × RunState) := (s.waiting, s.finals)

/-! ### Requests and answers -/

theorem inquiries_answer_reply (asker : Asker) (ticket : Ticket) (error : Option TimelineError) :
  (s.answer ticket (asker.reply error)).inquiries = s.inquiries
  := by
  cases asker <;> rfl

theorem inquiries_claim? {ticket : Ticket} {id : RunId} {s' : Server}
    (h : s.claim? ticket id = some s') :
  s'.inquiries = s.inquiries
  := by
  obtain ⟨run, -, -, rfl⟩ := exists_of_claim? s h
  split <;> rfl

theorem inquiries_await {p : Pending} (h : p.inquiry? = none) :
  (s.await p).inquiries = s.inquiries
  := by
  simp [inquiries, waiting, await, h, finals]

theorem inquiries_stop (ticket : Ticket) (asker : Asker) (file : String) :
  (s.stop ticket asker file).inquiries = s.inquiries
  := by
  rw [stop]
  split
  · apply inquiries_answer_reply
  · split
    · apply inquiries_answer_reply
    · rename_i id s' hclaimed
      obtain ⟨id', -, hclaimed⟩ := Option.bind_eq_some_iff.mp hclaimed
      obtain ⟨s'', hclaim, heq⟩ := Option.map_eq_some_iff.mp hclaimed
      obtain ⟨rfl, rfl⟩ := Prod.mk.inj heq
      rw [inquiries_await _ rfl, inquiries_claim? s hclaim]

theorem inquiries_stopEach (ticket : Ticket) (ids : List RunId) :
  (s.stopEach ticket ids).inquiries = s.inquiries
  := inquiries_await s rfl

/-! ### Starts -/

theorem inquiries_commit (o : Opening) :
  (s.commit o).1.inquiries = s.inquiries
  := by
  have henroll : (s.enroll o.key).inquiries = s.inquiries := by
    obtain ⟨timelines, heq⟩ := enroll_eq s o.key
    rw [heq]
    rfl
  rw [commit]
  split
  · rfl
  · simp only
    split
    · apply henroll
    · split
      · apply henroll
      · apply henroll

theorem inquiries_start (files : Files) (file : String) (args : List String) :
  (s.start files file args).1.inquiries = s.inquiries
  := by
  rw [start]
  split
  · rfl
  · apply inquiries_commit

theorem inquiries_execute (ticket : Ticket) (files : Files) (actor : Actor) (args : List String) :
  (s.execute ticket files actor args).inquiries = s.inquiries
  := by
  unfold execute
  simp only
  split
  · rfl
  · cases Request.ofArgs args with
    | start file args => apply inquiries_start s files file args
    | stop file => apply inquiries_stop
    | list => rfl
    | unclear file => rfl

/-! ### Calls -/

theorem inquiries_call (caller : Option Work) (c : Call) :
  (s.call caller c).inquiries = s.inquiries
  := by
  unfold call react
  split
  · rfl
  · apply inquiries_stop (s.record (.called caller c))
  · rfl

theorem inquiries_callCommand (caller : Option Work) (c : Command) (invocation : Invocation) :
  (s.callCommand caller c invocation).inquiries = s.inquiries
  := by
  unfold callCommand
  simp only
  split
  · apply inquiries_call (s.log (.executed invocation.actor.name invocation.raw))
  · apply inquiries_call

theorem inquiries_callEach (invocation : Invocation) (found : List Command) :
  ∀ s : Server, (s.callEach invocation found).1.inquiries = s.inquiries
  := by
  induction found with
  | nil =>
    intro s
    rfl
  | cons c rest ih =>
    intro s
    apply (ih _).trans (inquiries_callCommand s none c invocation)

theorem inquiries_respond? {caller : Option Work} {key : String} {invocation : Invocation}
    {s' : Server} {outcome : Outcome}
    (h : s.respond? caller key invocation = some (s', outcome)) :
  s'.inquiries = s.inquiries
  := by
  obtain ⟨⟨a, rest⟩, -, heq⟩ := Option.map_eq_some_iff.mp h
  obtain ⟨rfl, -⟩ := Prod.mk.inj heq
  apply inquiries_call { s with awaiting := rest }

theorem inquiries_carryOut (work : Work) :
  (s.carryOut work).inquiries = s.inquiries
  := by
  rw [carryOut]
  split
  · rfl
  · apply inquiries_callCommand
  · split
    · rfl
    · rename_i s' outcome hrespond
      apply inquiries_respond? s hrespond

/-! ### The work of a run -/

theorem inquiries_engage (work : Work) :
  (s.engage work).inquiries = s.inquiries
  := by
  rw [engage]
  split <;> rfl

theorem inquiries_proceed (id : RunId) (run : Run) :
  (s.proceed id run).inquiries = s.inquiries
  := by
  rw [proceed]
  split
  · split
    · rfl
    · apply inquiries_engage
  · rw [leaveBody]
    split <;> rfl
  · split
    · rfl
    · apply inquiries_engage
  · rfl

theorem inquiries_work (id : RunId) :
  (s.work id).inquiries = s.inquiries
  := by
  rw [work]
  split
  · rfl
  · split
    · apply inquiries_proceed
    · rename_i action _
      rw [handle]
      apply inquiries_carryOut (s.setActivity id _)
    · unfold takeUp
      simp only
      split <;> rfl
    · simp only
      split
      · rfl
      · split <;> rfl

/-! ### What is told -/

/-- A request that goes on tells nobody of the end of a run, or it tells who asked for it, if the run
has ended. -/
inductive Tells (s : Server) (t : Server) : Prop
  | nobody (h : t.inquiries = s.inquiries)
  | somebody {ticket : Ticket} {id : RunId} (hended : s.hasEnded id)
      (hwaiting : s.waiting.Perm ((ticket, id) :: t.waiting))
      (htold : t.finals = s.finals ++ [(ticket, s.runState id)])

theorem tells_serve (i : Nat) :
  s.Tells (s.serve i)
  := by
  rw [serve]
  split
  · exact .nobody rfl
  · rename_i p hi
    cases hdue : s.isDue p with
    | false => exact .nobody rfl
    | true =>
      simp only [Bool.not_true, Bool.false_eq_true, if_false]
      cases p with
      | stopping ticket asker id =>
        obtain ⟨-, herase⟩ := filterMap_of_none Pending.inquiry? hi rfl
        have hdone : inquiries { s with pending := s.pending.eraseIdx i } = s.inquiries :=
          Prod.ext herase rfl
        exact .nobody ((inquiries_answer_reply _ asker ticket none).trans hdone)
      | finishing ticket id =>
        have hwaiting : s.waiting.Perm
            ((ticket, id) :: waiting { s with pending := s.pending.eraseIdx i }) :=
          filterMap_of_some Pending.inquiry? hi rfl
        exact .somebody hdue hwaiting (by simp [answer, record, finals, Fact.final?])
      | stoppingAll ticket current rest count =>
        obtain ⟨hset, herase⟩ := filterMap_of_none Pending.inquiry? hi rfl
        apply Tells.nobody
        cases current with
        | some id => exact Prod.ext (hset _ rfl) rfl
        | none =>
          cases rest with
          | nil =>
            have hdone : inquiries { s with pending := s.pending.eraseIdx i } = s.inquiries :=
              Prod.ext herase rfl
            simp only
            split
            · exact hdone
            · exact hdone
          | cons id rest =>
            simp only
            split
            · exact Prod.ext (hset _ rfl) rfl
            · rename_i s' hclaim
              rw [← pending_claim? s hclaim] at hset
              have hput : inquiries { s' with
                  pending := s'.pending.set i (.stoppingAll ticket (some id) rest count) }
                  = s'.inquiries := Prod.ext (hset _ rfl) rfl
              exact hput.trans (inquiries_claim? s hclaim)

theorem tells_step (move : Move) :
  s.Tells (s.step move)
  := by
  cases move with
  | work id => exact .nobody (inquiries_work s id)
  | serve i => exact tells_serve s i

end Server

end CommandTimelines
