import CommandTimelines.Proofs.Header

/-!
# The shape of a queue

A script that can be compiled comes to a queue in which the actions of its lines follow each other
(`Scope.IsQueue`): the numbers of the lines ascend, and the actions with one number are those that
the line with this number gives (`Scope.Gives`). That is a wait, or the delivery of a response
that no command answers to, or a call of each command that answers to the name on the line, in the
order in which they were registered. A line gives nothing exactly if it is the header, or if there
is nothing to do on it (`Scope.IsIdle`).

The queue is first cut into what each line is compiled to (`Scope.IsListing`). What a single line
can be compiled to is then said by `Scope.exists_gives`, and how a header is passed over by
`Scope.exists_compileLines_eq`.
-/

namespace CommandTimelines.Script

open Host Text

/-! ### What a line can mean -/

/-- A line says a wait, or names required arguments, or means what it means as a command line. -/
theorem Directive.read_cases {specifiers : Specifiers} {line : List Char} {directive : Directive}
    {split : List Char → List (List Char)}
    (h : Directive.read specifiers line split = .ok directive) :
  (∃ rest milliseconds, line = waitMark ++ rest ∧ word? (trim rest) = some milliseconds
      ∧ directive = .wait milliseconds)
    ∨ (∃ names, directive = .require names)
    ∨ ¬ waitMark <+: line ∧ directive = .ofCommandLine specifiers line split
  := by
  by_cases hwait : waitMark <+: line
  · left
    obtain ⟨rest, rfl⟩ := hwait
    rw [read_waitMark] at h
    cases hvalue : word? (trim rest) with
    | none =>
      rw [hvalue] at h
      cases h
    | some milliseconds =>
      rw [hvalue] at h
      cases h
      exact ⟨rest, milliseconds, rfl, hvalue, rfl⟩
  · right
    by_cases hrequire : requireMark <+: line
    · obtain ⟨rest, rfl⟩ := hrequire
      rw [read_requireMark] at h
      cases h
      exact .inl ⟨_, rfl⟩
    · rw [read_of_not_mark specifiers split hwait hrequire] at h
      cases h
      exact .inr ⟨hwait, rfl⟩

/-- The line at a position is the header of a script: there is nothing to do on the lines above it,
and it names required arguments. -/
inductive IsHeader : List (List Char) → Nat → Prop
  | first {line list : List Char} {rest : List (List Char)}
      (hread : Line.read line = .text (requireMark ++ list)) : IsHeader (line :: rest) 0
  | later {line : List Char} {rest : List (List Char)} {i : Nat}
      (hblank : (Line.read line).isBlank = true) (h : IsHeader rest i) :
      IsHeader (line :: rest) (i + 1)

/-- The actions in a queue that come from the line with a number. -/
def actionsAt (number : Nat) (queue : List Action) : List Action :=
  queue.filter (·.line == number)

namespace Scope

variable (scope : Scope)

/-- What the line with a number gives, its arguments put in, if it gives anything. A wait is no
command line, so no mark is taken off it. -/
inductive Gives (number : Nat) (filled : List Char) : List Action → Prop
  | wait {rest : List Char} {milliseconds : Nat} (hfilled : filled = waitMark ++ rest)
      (hvalue : word? (trim rest) = some milliseconds) :
      Gives number filled [.delay number milliseconds]
  /-- The first word is the name of no command. -/
  | response {silent : Bool} {text : List Char} {first : String} {args : List String}
      (hmark : unmark scope.specifiers filled = (silent, text))
      (hwords : words (String.ofList text) = first :: args)
      (hnone : ∀ c ∈ scope.commands, c.answersTo (lower first) = false) :
      Gives number filled [.deliver number (lower first) (String.ofList text) args]
  /-- The first word is the name of at least one command. -/
  | calls {silent : Bool} {text : List Char} {first : String} {args : List String}
      (hmark : unmark scope.specifiers filled = (silent, text))
      (hwords : words (String.ofList text) = first :: args)
      (hsome : ∃ c ∈ scope.commands, c.answersTo (lower first) = true) :
      Gives number filled
        ((scope.commands.filter (·.answersTo (lower first))).map fun c =>
          .invoke number (lower first) c (String.ofList text) silent args)

/-- Whether there is nothing to do on a line: it is blank or a comment, or it is, its arguments put
in, a command line without words. -/
inductive IsIdle (line : List Char) : Prop
  | blank (h : (Line.read line).isBlank = true)
  | wordless {content filled : List Char} {number : Nat} (hread : Line.read line = .text content)
      (hfill : scope.fill number content = .ok filled) (hwait : ¬ waitMark <+: filled)
      (hwords : words (String.ofList (unmark scope.specifiers filled).2) = [])

/-- The queue of a script with the given lines, some of which are headers. -/
structure IsQueue (ls : List (List Char)) (header : Nat → Prop) (queue : List Action) : Prop where
  ascending : queue.Pairwise fun a b => a.line ≤ b.line
  line_mem : ∀ action ∈ queue, 1 ≤ action.line ∧ action.line ≤ ls.length
  /-- A line with actions gives them. -/
  gives : ∀ i line, ls[i]? = some line → actionsAt (i + 1) queue ≠ [] →
    ∃ content filled, Line.read line = .text content ∧ scope.fill (i + 1) content = .ok filled
      ∧ scope.Gives (i + 1) filled (actionsAt (i + 1) queue)
  /-- Only headers and idle lines have no actions. -/
  eq_nil_iff : ∀ i line, ls[i]? = some line →
    (actionsAt (i + 1) queue = [] ↔ header i ∨ scope.IsIdle line)

/-! ### Single lines -/

section

variable {scope} {number : Nat} {filled : List Char} {actions : List Action}

theorem Gives.line_eq (h : scope.Gives number filled actions) :
  ∀ action ∈ actions, action.line = number
  := by
  intro action haction
  cases h with
  | wait hfilled hvalue =>
    rw [List.mem_singleton.mp haction]
    rfl
  | response hmark hwords hnone =>
    rw [List.mem_singleton.mp haction]
    rfl
  | calls hmark hwords hsome =>
    obtain ⟨c, -, rfl⟩ := List.mem_map.mp haction
    rfl

theorem Gives.ne_nil (h : scope.Gives number filled actions) :
  actions ≠ []
  := by
  cases h with
  | wait hfilled hvalue => exact List.cons_ne_nil _ _
  | response hmark hwords hnone => exact List.cons_ne_nil _ _
  | calls hmark hwords hsome =>
    obtain ⟨c, hc, hanswers⟩ := hsome
    exact List.ne_nil_of_mem (List.mem_map_of_mem (List.mem_filter.mpr ⟨hc, hanswers⟩))

/-- What gives something is a wait or has words. -/
theorem Gives.words_ne_nil (h : scope.Gives number filled actions)
    (hwait : ¬ waitMark <+: filled) :
  words (String.ofList (unmark scope.specifiers filled).2) ≠ []
  := by
  cases h with
  | wait hfilled hvalue => exact absurd ⟨_, hfilled.symm⟩ hwait
  | response hmark hwords hnone =>
    rw [hmark, hwords]
    exact List.cons_ne_nil _ _
  | calls hmark hwords hsome =>
    rw [hmark, hwords]
    exact List.cons_ne_nil _ _

/-- What a command line gives that has a first word. -/
theorem gives_of_actionsOf {silent : Bool} {text : List Char} {first : String}
    {args : List String} (hmark : unmark scope.specifiers filled = (silent, text))
    (hwords : words (String.ofList text) = first :: args)
    (h : scope.actionsOf number ⟨silent, String.ofList text, lower first, args⟩ = .ok actions) :
  scope.Gives number filled actions
  := by
  rw [actionsOf, Resolver.find_list, Command.allNamed] at h
  split at h
  · rename_i hnone
    cases h
    apply Gives.response hmark hwords
    simpa using hnone
  · rename_i hnone
    obtain ⟨c, hc⟩ := List.exists_mem_of_ne_nil _ hnone
    split at h
    · cases h
      exact .calls hmark hwords ⟨c, List.mem_filter.mp hc⟩
    · cases h

/-- A text that can be compiled gives its actions, or it is a command line without words. -/
theorem exists_gives {content : List Char} (h : scope.compileText number content = .ok actions) :
  ∃ filled, scope.fill number content = .ok filled
    ∧ (scope.Gives number filled actions
      ∨ actions = [] ∧ ¬ waitMark <+: filled
        ∧ words (String.ofList (unmark scope.specifiers filled).2) = [])
  := by
  rw [compileText] at h
  cases hfill : scope.fill number content with
  | error error =>
    rw [hfill] at h
    cases h
  | ok filled =>
    refine ⟨filled, rfl, ?_⟩
    rw [hfill] at h
    simp only [Bind.bind, Except.bind, Resolver.split_list] at h
    cases hread : Directive.read scope.specifiers filled Words.split with
    | error fault =>
      rw [hread] at h
      cases h
    | ok directive =>
      rw [hread] at h
      obtain ⟨rest, milliseconds, rfl, hvalue, rfl⟩ | ⟨names, rfl⟩ | ⟨hwait, rfl⟩ :=
        Directive.read_cases hread
      · cases h
        exact .inl (.wait rfl hvalue)
      · cases h
      · obtain ⟨silent, text, hmark⟩ : ∃ silent text,
            unmark scope.specifiers filled = (silent, text) := ⟨_, _, rfl⟩
        have hwords : words (String.ofList text) = (Words.split text).map String.ofList := by
          rw [words, String.toList_ofList]
        simp only [Directive.ofCommandLine, hmark] at h
        cases hsplit : Words.split text with
        | nil =>
          simp only [hsplit] at h hwords
          cases h
          exact .inr ⟨rfl, hwait, by rw [hmark, hwords, List.map_nil]⟩
        | cons first args =>
          simp only [hsplit] at h hwords
          exact .inl (gives_of_actionsOf hmark hwords h)

end

/-! ### One line after the other -/

/-- A queue that lists what each line is compiled to. -/
structure IsListing (number : Nat) (ls : List (List Char)) (queue : List Action) : Prop where
  ascending : queue.Pairwise fun a b => a.line ≤ b.line
  line_mem : ∀ action ∈ queue, number ≤ action.line ∧ action.line < number + ls.length
  compileLine_eq : ∀ i line, ls[i]? = some line →
    scope.compileLine (number + i) line = .ok (actionsAt (number + i) queue)

section

variable {scope} {number : Nat}

theorem line_eq_of_compileLine {line : List Char} {actions : List Action}
    (h : scope.compileLine number line = .ok actions) :
  ∀ action ∈ actions, action.line = number
  := by
  rw [compileLine] at h
  split at h
  · cases h
    exact List.forall_mem_nil _
  · obtain ⟨filled, -, hgives | ⟨rfl, -, -⟩⟩ := exists_gives h
    · exact hgives.line_eq
    · exact List.forall_mem_nil _

/-- What a line is compiled to, in front of a listing of the lines below. -/
theorem IsListing.cons {line : List Char} {rest : List (List Char)} {here later : List Action}
    (hline : scope.compileLine number line = .ok here)
    (h : scope.IsListing (number + 1) rest later) :
  scope.IsListing number (line :: rest) (here ++ later)
  := by
  have hhere := line_eq_of_compileLine hline
  constructor
  · rw [List.pairwise_append]
    refine ⟨?_, h.ascending, ?_⟩
    · apply List.pairwise_of_forall_mem_list
      intro a ha b hb
      rw [hhere a ha, hhere b hb]
    · intro a ha b hb
      rw [hhere a ha]
      exact Nat.le_of_succ_le (h.line_mem b hb).1
  · intro action haction
    rw [List.length_cons]
    rcases List.mem_append.mp haction with haction | haction
    · rw [hhere action haction]
      omega
    · have hlater := h.line_mem action haction
      omega
  · intro i l hl
    rw [actionsAt, List.filter_append]
    cases i with
    | zero =>
      obtain rfl : line = l := by simpa using hl
      have hall : here.filter (·.line == number) = here :=
        List.filter_eq_self.mpr fun a ha => by simp [hhere a ha]
      have hnone : later.filter (·.line == number) = [] := by
        apply List.filter_eq_nil_iff.mpr
        intro a ha
        have hlater := (h.line_mem a ha).1
        simp only [beq_iff_eq]
        omega
      rw [Nat.add_zero, hall, hnone, List.append_nil, hline]
    | succ i =>
      have hnone : here.filter (·.line == number + (i + 1)) = [] := by
        apply List.filter_eq_nil_iff.mpr
        intro a ha
        simp [hhere a ha]
      have hlater := h.compileLine_eq i l hl
      rw [Nat.add_right_comm, Nat.add_assoc] at hlater
      rw [hnone, List.nil_append, hlater, actionsAt]

theorem isListing_of_compileLines {ls : List (List Char)} {queue : List Action}
    (h : scope.compileLines number ls = .ok queue) :
  scope.IsListing number ls queue
  := by
  induction ls generalizing number queue with
  | nil =>
    cases h
    exact ⟨.nil, List.forall_mem_nil _, by simp⟩
  | cons line rest ih =>
    rw [compileLines_cons] at h
    cases hline : scope.compileLine number line with
    | error error =>
      rw [hline] at h
      cases h
    | ok here =>
      rw [hline, Compiled.ok_followedBy] at h
      cases hrest : scope.compileLines (number + 1) rest with
      | error error =>
        rw [hrest] at h
        cases h
      | ok later =>
        rw [hrest] at h
        cases h
        exact .cons hline (ih hrest)

/-! ### The header -/

theorem not_isBlank_of_isHeader {line list : List Char}
    (hread : Line.read line = .text (requireMark ++ list)) :
  (Line.read line).isBlank = false
  := by
  rw [hread]
  rfl

/-- A script is compiled like lines without a header, the first of which are the same, and one of
which is empty where the header is. -/
theorem exists_compileLines_eq {ls : List (List Char)} {queue : List Action}
    (h : scope.compileScript number ls = .ok queue) :
  ∃ ks : List (List Char), scope.compileLines number ks = .ok queue ∧ ks.length = ls.length
    ∧ (∀ i, IsHeader ls i → ks[i]? = some []) ∧ ∀ i, ¬ IsHeader ls i → ks[i]? = ls[i]?
  := by
  induction ls generalizing number with
  | nil => cases h
  | cons line rest ih =>
    cases hblank : (Line.read line).isBlank with
    | true =>
      rw [scope.compileScript_of_isBlank hblank] at h
      obtain ⟨ks, hks, hlength, hheader, hother⟩ := ih h
      refine ⟨line :: ks, ?_, congrArg (· + 1) hlength, ?_, ?_⟩
      · rw [compileLines_cons, scope.compileLine_of_isBlank rfl hblank, hks]
        rfl
      · intro i hi
        cases hi with
        | first hread =>
          rw [not_isBlank_of_isHeader hread] at hblank
          cases hblank
        | later hblank hrest => exact hheader _ hrest
      · intro i hi
        cases i with
        | zero => rfl
        | succ i => exact hother i fun hrest => hi (.later hblank hrest)
    | false =>
      obtain ⟨content, hread, hcontent⟩ := Line.exists_content hblank
      by_cases hmark : requireMark <+: content
      · obtain ⟨list, rfl⟩ := hmark
        rw [scope.compileScript_of_header hread hcontent] at h
        split at h
        · cases h
        · refine ⟨[] :: rest, ?_, rfl, ?_, ?_⟩
          · rw [compileLines_cons, scope.compileLine_of_isBlank rfl rfl, h]
            rfl
          · intro i hi
            cases hi with
            | first hread => rfl
            | later hline hrest =>
              rw [hline] at hblank
              cases hblank
          · intro i hi
            cases i with
            | zero => exact absurd (.first hread) hi
            | succ i => rfl
      · rw [scope.compileScript_of_not_header hread hcontent hmark] at h
        refine ⟨line :: rest, h, rfl, ?_, fun i hi => rfl⟩
        intro i hi
        cases hi with
        | @first _ list _ hheader =>
          obtain rfl := Line.text.inj (hread.symm.trans hheader)
          exact absurd (List.prefix_append requireMark list) hmark
        | later hline hrest =>
          rw [hline] at hblank
          cases hblank

/-- A listing of lines that are empty where others are headers, and else the same. -/
theorem IsListing.isQueue {ks ls : List (List Char)} {header : Nat → Prop} {queue : List Action}
    (h : scope.IsListing 1 ks queue) (hlength : ks.length = ls.length)
    (hheader : ∀ i, header i → ks[i]? = some [])
    (hother : ∀ i, ¬ header i → ks[i]? = ls[i]?) :
  scope.IsQueue ls header queue
  := by
  have hline : ∀ i line, ks[i]? = some line →
      scope.compileLine (i + 1) line = .ok (actionsAt (i + 1) queue) := by
    intro i line hi
    rw [Nat.add_comm]
    exact h.compileLine_eq i line hi
  have hidle : ∀ i line, ks[i]? = some line → (Line.read line).isBlank = true →
      actionsAt (i + 1) queue = [] := by
    intro i line hi hblank
    have hnothing := hline i line hi
    rw [scope.compileLine_of_isBlank rfl hblank] at hnothing
    exact (Except.ok.inj hnothing).symm
  -- A line that is no header, and not blank, is compiled as its content.
  have hcontent : ∀ i line content, ls[i]? = some line → ¬ header i →
      Line.read line = .text content →
      scope.compileText (i + 1) content = .ok (actionsAt (i + 1) queue) := by
    intro i line content hi hnot hread
    have hcompiled := hline i line ((hother i hnot).trans hi)
    rw [compileLine, hread] at hcompiled
    exact hcompiled
  constructor
  · exact h.ascending
  · intro action haction
    have hmem := h.line_mem action haction
    omega
  · intro i line hi hsome
    by_cases hhead : header i
    · exact absurd (hidle i [] (hheader i hhead) rfl) hsome
    · cases hread : Line.read line with
      | comment =>
        refine absurd (hidle i line ((hother i hhead).trans hi) ?_) hsome
        rw [hread]
        rfl
      | text content =>
        obtain ⟨filled, hfill, hgives | ⟨hnil, -, -⟩⟩ :=
          exists_gives (hcontent i line content hi hhead hread)
        · exact ⟨content, filled, rfl, hfill, hgives⟩
        · exact absurd hnil hsome
  · intro i line hi
    constructor
    · intro hnil
      by_cases hhead : header i
      · exact .inl hhead
      · right
        cases hread : Line.read line with
        | comment =>
          apply IsIdle.blank
          rw [hread]
          rfl
        | text content =>
          obtain ⟨filled, hfill, hgives | ⟨-, hwait, hwords⟩⟩ :=
            exists_gives (hcontent i line content hi hhead hread)
          · exact absurd hnil hgives.ne_nil
          · exact .wordless hread hfill hwait hwords
    · rintro (hhead | hblank)
      · exact hidle i [] (hheader i hhead) rfl
      · by_cases hhead : header i
        · exact hidle i [] (hheader i hhead) rfl
        · cases hblank with
          | blank hblank => exact hidle i line ((hother i hhead).trans hi) hblank
          | @wordless content filled number hread hfill hwait hwords =>
            obtain ⟨other, hfill', hgives | ⟨hnil, -, -⟩⟩ :=
              exists_gives (hcontent i line content hi hhead hread)
            · obtain rfl := Except.ok.inj ((scope.fill_eq_ok hfill (i + 1)).symm.trans hfill')
              exact absurd hwords (hgives.words_ne_nil hwait)
            · exact hnil

end

/-- A script that can be compiled comes to a queue that lists what its lines give, and so do lines
without a header. -/
theorem compile_isQueue (raw : String) (queue : List Action) :
  (scope.compile raw = .ok queue →
    scope.IsQueue (lines raw.toList) (IsHeader (lines raw.toList)) queue)
  ∧ (scope.compileBody raw = .ok queue →
    scope.IsQueue (lines raw.toList) (fun _ => False) queue)
  := by
  constructor
  · intro h
    obtain ⟨ks, hks, hlength, hheader, hother⟩ := exists_compileLines_eq h
    exact (isListing_of_compileLines hks).isQueue hlength hheader hother
  · intro h
    exact (isListing_of_compileLines h).isQueue rfl (fun _ => False.elim) fun _ _ => rfl

/-- A script below a comment and a header, in which two commands answer to one name, one of them by
two of its own, nobody answers to another, and a mark stands alone; and lines without a header. -/
theorem compile_isQueue_say :
  let say : Command := { given := ["announce", "say", "SAY"] }
  let tell : Command := { given := ["tell", "Say"] }
  let scope : Scope :=
    { name := "show", params := ["you"], commands := [say, { given := ["time"] }, tell]
      specifiers := {} }
  let raw := "// greeting\n#req who\n.say hi \x7b0\x7d // once\n/\n#wait 5\nyes it is"
  let queue : List Action :=
    [.invoke 3 "say" say "say hi you" true ["hi", "you"],
      .invoke 3 "say" tell "say hi you" true ["hi", "you"],
      .delay 5 5, .deliver 6 "yes" "yes it is" ["it", "is"]]
  (scope.compile raw = .ok queue
      ∧ scope.IsQueue (lines raw.toList) (IsHeader (lines raw.toList)) queue)
    ∧ scope.compileBody "\nyes" = .ok [.deliver 2 "yes" "yes" []]
    ∧ scope.IsQueue (lines "\nyes".toList) (fun _ => False) [.deliver 2 "yes" "yes" []]
  := by
  intro say tell scope raw queue
  have hscript : scope.compile raw = .ok queue := by decide +kernel
  have hbody : scope.compileBody "\nyes" = .ok [.deliver 2 "yes" "yes" []] := by decide +kernel
  exact ⟨⟨hscript, (scope.compile_isQueue raw queue).1 hscript⟩, hbody,
    (scope.compile_isQueue "\nyes" _).2 hbody⟩

end Scope

end CommandTimelines.Script
