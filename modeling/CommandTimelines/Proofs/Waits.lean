import CommandTimelines.Proofs.Console
import CommandTimelines.Proofs.Queue

/-!
# Lines that wait

A line that starts with the word `#wait` is taken for a wait if a plain space stands after the
word, and after that something that is neither blank nor part of a comment (`HasInterval`). Then
it comes to one wait, or, its arguments put in, the complaint that it names no interval
(`Scope.compileText_wait`); and it is never taken for a command. The arguments do not decide
this: an interval may well be empty once they are put in.

Blanks at the end of a line are gone before the word is looked for, and what is looked for ends
in a plain space. So a line on which nothing but blanks and a comment follow the word, or on
which another blank stands right after it, is no wait and no complaint, but a command line whose
name is `#wait` (`Scope.compile_waitWord_bare`).
-/

namespace CommandTimelines.Script

open Host Text

/-- The word that a line starts with which waits. -/
def waitWord : List Char := ['#', 'w', 'a', 'i', 't']

/-- What may stand right after a word on a line. -/
inductive EndsWord : List Char → Prop where
  | nothing : EndsWord []
  | blank {c : Char} {rest : List Char} (hc : isBlank c = true) : EndsWord (c :: rest)
  | comment {rest : List Char} : EndsWord ('/' :: '/' :: rest)

/-- Whether what stands after a word is a plain space, and then something besides blanks and a
comment. -/
def HasInterval (rest : List Char) : Prop :=
  ∃ more, rest = ' ' :: more ∧ ∃ c ∈ beforeComment more, isBlank c = false

/-! ### What is read of a line -/

theorem read_waitWord (rest : List Char) :
  Line.read (waitWord ++ rest) = .text (trimEnd (waitWord ++ beforeComment rest))
  := by
  rw [Line.read_of_not_comment]
  · simp [waitWord, beforeComment]
  · rintro text ⟨⟩

/-- An interval is kept after its mark. -/
theorem HasInterval.read_eq {rest : List Char} (h : HasInterval rest) :
  ∃ content, Line.read (waitWord ++ rest) = .text (waitMark ++ content)
  := by
  obtain ⟨more, rfl, c, hc, hblank⟩ := h
  use trimEnd (beforeComment more)
  have hbefore : waitWord ++ beforeComment (' ' :: more) = waitMark ++ beforeComment more := by
    simp [waitWord, waitMark, beforeComment]
  rw [read_waitWord, hbefore, trimEnd_append_of_not_blank hc hblank]

/-- Without an interval, all that is kept is the word, or a blank that is no plain space follows
it. -/
theorem EndsWord.read_eq {rest : List Char} (h : EndsWord rest) (hnone : ¬ HasInterval rest) :
  Line.read (waitWord ++ rest) = .text waitWord
    ∨ ∃ c content, isBlank c = true ∧ c ≠ ' '
      ∧ Line.read (waitWord ++ rest) = .text (waitWord ++ c :: content)
  := by
  rw [read_waitWord]
  by_cases hall : ∀ c ∈ beforeComment rest, isBlank c = true
  · left
    rw [trimEnd_append_blanks _ _ hall]
    rfl
  · right
    simp only [not_forall, Bool.not_eq_true] at hall
    obtain ⟨d, hd, hdblank⟩ := hall
    cases h with
    | nothing => cases hd
    | comment => cases hd
    | @blank c more hc =>
      have hne : c ≠ '/' := by
        rintro rfl
        exact absurd hc (by decide)
      have hbefore : beforeComment (c :: more) = c :: beforeComment more := by
        rw [beforeComment]
        rintro later rfl
        exact absurd rfl hne
      rw [hbefore] at hd
      have hmore : d ∈ beforeComment more := by
        rcases List.mem_cons.mp hd with rfl | hd
        · rw [hc] at hdblank
          cases hdblank
        · exact hd
      use c, trimEnd (beforeComment more), hc
      constructor
      · rintro rfl
        exact hnone ⟨more, rfl, d, hmore, hdblank⟩
      · rw [hbefore, List.append_cons, trimEnd_append_of_not_blank hmore hdblank,
          ← List.append_cons]

/-! ### Which line a result tells of -/

namespace Compiled

/-- Whether the actions of a result, or the invalid interval it tells of, are on lines with certain
numbers. -/
structure Within (numbers : Nat → Prop) (result : Compiled) : Prop where
  actions : result.All fun action => numbers action.line
  interval : ∀ line value, result = .error (.invalidWait line value) → numbers line

/-- Whether a result tells of a wait on the line with a number, or of an invalid interval there. -/
inductive Waits (number : Nat) : Compiled → Prop where
  | delay {actions : List Action} {milliseconds : Nat}
      (hdelay : .delay number milliseconds ∈ actions) : Waits number (.ok actions)
  | invalid {value : String} : Waits number (.error (.invalidWait number value))

variable {numbers : Nat → Prop} {here later : Compiled}

theorem within_nil :
  Within numbers (.ok [])
  := ⟨all_nil, by rintro line value ⟨⟩⟩

theorem Within.mono (h : here.Within numbers) {others : Nat → Prop}
    (himp : ∀ number, numbers number → others number) :
  here.Within others
  := by
  constructor
  · intro actions hactions action haction
    exact himp _ (h.actions actions hactions action haction)
  · intro line value herror
    exact himp _ (h.interval line value herror)

theorem Within.followedBy (hhere : here.Within numbers) (hlater : later.Within numbers) :
  (here.followedBy later).Within numbers
  := by
  refine ⟨hhere.actions.followedBy hlater.actions, ?_⟩
  intro line value herror
  cases here with
  | error error => exact hhere.interval line value herror
  | ok actions =>
    cases later with
    | error error => exact hlater.interval line value herror
    | ok others => cases herror

/-- A wait is one of the actions, or the invalid interval, that a result tells of. -/
theorem Waits.mem {number : Nat} (h : Waits number here) (hwithin : here.Within numbers) :
  numbers number
  := by
  cases h with
  | delay hdelay => exact hwithin.actions _ rfl _ hdelay
  | invalid => exact hwithin.interval _ _ rfl

theorem Waits.of_followedBy {number : Nat} (h : Waits number (here.followedBy later)) :
  Waits number here ∨ Waits number later
  := by
  cases here with
  | error error => exact .inl h
  | ok actions =>
    cases later with
    | error error => exact .inr h
    | ok others =>
      cases h with
      | delay hdelay =>
        rcases List.mem_append.mp hdelay with hdelay | hdelay
        · exact .inl (.delay hdelay)
        · exact .inr (.delay hdelay)

end Compiled

namespace Scope

variable {R : Type} [Resolver R] (scope : Scope R)

theorem within_compileLine (number : Nat) (line : List Char) :
  Compiled.Within (· = number) (scope.compileLine number line)
  := by
  have hnumber := scope.compileLine_mapLine (fun _ => number) number line
  constructor
  · intro actions hactions action haction
    rw [hactions] at hnumber
    rw [Except.ok.inj hnumber] at haction
    obtain ⟨other, -, rfl⟩ := List.mem_map.mp haction
    cases other <;> rfl
  · intro other value herror
    rw [herror] at hnumber
    exact (TimelineError.invalidWait.inj (Except.error.inj hnumber)).1

theorem within_compileLines (ls : List (List Char)) :
  ∀ number, Compiled.Within (fun n => number ≤ n ∧ n < number + ls.length)
    (scope.compileLines number ls)
  := by
  induction ls with
  | nil =>
    intro number
    exact Compiled.within_nil
  | cons line rest ih =>
    intro number
    rw [compileLines_cons]
    apply Compiled.Within.followedBy
    · apply (scope.within_compileLine number line).mono
      rintro n rfl
      rw [List.length_cons]
      omega
    · apply (ih (number + 1)).mono
      rintro n ⟨hlow, hhigh⟩
      rw [List.length_cons]
      omega

/-! ### The lines above -/

/-- What the lines above another one come to. If there is nothing to do on them, they come to
nothing: it is then the line below that may be the header of the script. -/
def compileAbove (number : Nat) (ls : List (List Char)) : Compiled :=
  if ls.all fun line => (Line.read line).isBlank then .ok [] else scope.compileScript number ls

theorem within_compileScript (ls : List (List Char)) :
  ∀ number, Compiled.Within (fun n => number ≤ n ∧ n < number + ls.length)
    (scope.compileScript number ls)
  := by
  induction ls with
  | nil =>
    intro number
    exact ⟨Compiled.all_error _, by rintro line value ⟨⟩⟩
  | cons line rest ih =>
    intro number
    have hlater : ∀ n, number + 1 ≤ n ∧ n < number + 1 + rest.length →
        number ≤ n ∧ n < number + (line :: rest).length := by
      rintro n ⟨hlow, hhigh⟩
      rw [List.length_cons]
      omega
    cases hblank : (Line.read line).isBlank with
    | true =>
      rw [scope.compileScript_of_isBlank hblank]
      exact (ih (number + 1)).mono hlater
    | false =>
      obtain ⟨names, hscript⟩ | hscript := scope.compileScript_of_not_isBlank hblank
      · rw [hscript]
        split
        · exact ⟨Compiled.all_error _, by rintro line value ⟨⟩⟩
        · exact (scope.within_compileLines rest (number + 1)).mono hlater
      · rw [hscript]
        exact scope.within_compileLines (line :: rest) number

theorem within_compileAbove (ls : List (List Char)) (number : Nat) :
  Compiled.Within (· < number + ls.length) (scope.compileAbove number ls)
  := by
  rw [compileAbove]
  split
  · exact Compiled.within_nil
  · apply (scope.within_compileScript ls number).mono
    rintro n ⟨-, hhigh⟩
    exact hhigh

/-- A script is what the lines above one of its lines come to, and then what this line comes to and
the lines below, unless it is blank or the header. -/
theorem compileScript_append {line content : List Char} (hread : Line.read line = .text content)
    (hblank : content.all isBlank = false) (hmark : ¬ requireMark <+: content)
    (before after : List (List Char)) :
  ∀ number, scope.compileScript number (before ++ line :: after)
    = Compiled.followedBy (scope.compileAbove number before)
        (Compiled.followedBy (scope.compileLine (number + before.length) line)
          (scope.compileLines (number + before.length + 1) after))
  := by
  induction before with
  | nil =>
    intro number
    have habove : scope.compileAbove number [] = .ok [] := rfl
    rw [habove, Compiled.nil_followedBy, List.nil_append,
      scope.compileScript_of_not_header hread hblank hmark]
    rfl
  | cons first before ih =>
    intro number
    have hcount : number + 1 + before.length = number + (first :: before).length := by
      rw [List.length_cons]
      omega
    cases hfirst : (Line.read first).isBlank with
    | true =>
      have habove : scope.compileAbove number (first :: before)
          = scope.compileAbove (number + 1) before := by
        rw [compileAbove, compileAbove, List.all_cons, hfirst, Bool.true_and,
          scope.compileScript_of_isBlank hfirst]
      rw [List.cons_append, scope.compileScript_of_isBlank hfirst, ih, habove, hcount]
    | false =>
      have habove : scope.compileAbove number (first :: before)
          = scope.compileScript number (first :: before) := by
        rw [compileAbove, List.all_cons, hfirst, Bool.false_and]
        rfl
      rw [habove, List.cons_append]
      obtain ⟨names, hscript⟩ | hscript := scope.compileScript_of_not_isBlank hfirst
      · rw [hscript, hscript]
        split
        · rfl
        · rw [compileLines_append, compileLines_cons, hcount]
      · rw [hscript, hscript, ← List.cons_append, compileLines_append,
          compileLines_cons _ (number + (first :: before).length)]

/-! ### What a line comes to -/

omit [Resolver R] in
theorem eq_unbound_of_fill {number : Nat} {content : List Char} {error : TimelineError}
    (h : scope.fill number content = .error error) :
  ∃ fault, error = .unbound number fault
  := by
  rw [fill] at h
  split at h
  · cases h
  · cases hbind : bindChars scope.params content with
    | ok filled =>
      rw [hbind] at h
      cases h
    | error fault =>
      rw [hbind] at h
      exact ⟨fault, (Except.error.inj h).symm⟩

theorem compileText_of_fill_error {number : Nat} {content : List Char} {error : TimelineError}
    (h : scope.fill number content = .error error) :
  scope.compileText number content = .error error
  := by
  rw [compileText, h]
  rfl

/-- A line whose mark stays is a wait of so many milliseconds, or names no interval. -/
theorem compileText_wait {number : Nat} {content value : List Char}
    (hfill : scope.fill number content = .ok (waitMark ++ value)) :
  scope.compileText number content
    = match word? (trim value) with
      | some milliseconds => .ok [.delay number milliseconds]
      | none => .error (.invalidWait number (String.ofList value))
  := by
  rw [compileText, hfill]
  simp only [Bind.bind, Except.bind, Directive.read_waitMark]
  cases word? (trim value) with
  | none => rfl
  | some milliseconds => rfl

theorem not_waits_actionsOf (number : Nat) (line : CommandLine) :
  ¬ Compiled.Waits number (scope.actionsOf number line)
  := by
  intro hwaits
  rw [actionsOf] at hwaits
  split at hwaits
  · cases hwaits with
    | delay hdelay => cases List.mem_singleton.mp hdelay
  · split at hwaits
    · cases hwaits with
      | delay hdelay =>
        obtain ⟨c, -, hc⟩ := List.mem_map.mp hdelay
        cases hc
    · cases hwaits

/-- A line without the mark is no wait, and no complaint about one. -/
theorem not_waits_compileText {number : Nat} {content : List Char}
    (h : ∀ filled, scope.fill number content = .ok filled → ¬ waitMark <+: filled) :
  ¬ Compiled.Waits number (scope.compileText number content)
  := by
  intro hwaits
  cases hfill : scope.fill number content with
  | error error =>
    obtain ⟨fault, rfl⟩ := scope.eq_unbound_of_fill hfill
    rw [scope.compileText_of_fill_error hfill] at hwaits
    cases hwaits
  | ok filled =>
    rw [compileText, hfill] at hwaits
    simp only [Bind.bind, Except.bind] at hwaits
    cases hread : Directive.read scope.specifiers filled (Resolver.split scope.commands) with
    | error fault =>
      simp only [Directive.read, isPrefixOf?_eq_none (h filled hfill)] at hread
      split at hread <;> cases hread
    | ok directive =>
      obtain ⟨rest, milliseconds, rfl, -, -⟩ | ⟨names, rfl⟩ | ⟨-, rfl⟩ :=
        Directive.read_cases hread
      · exact h _ hfill (List.prefix_append _ _)
      · rw [hread] at hwaits
        cases hwaits
      · rw [hread] at hwaits
        simp only [Directive.ofCommandLine] at hwaits
        split at hwaits
        · rename_i herror
          cases herror
        · cases hwaits with
          | delay hdelay => cases hdelay
        · rename_i hwait
          split at hwait <;> cases hwait
        · cases hwaits
        · exact scope.not_waits_actionsOf number _ hwaits

theorem not_isBrace_of_mem_waitMark :
  ∀ c ∈ waitMark, isBrace c = false
  := by simp [waitMark, isBrace]

omit [Resolver R] in
/-- Without an interval, the mark is not there, whatever the arguments are. -/
theorem exists_read_of_not_hasInterval {rest : List Char} (hend : EndsWord rest)
    (hnone : ¬ HasInterval rest) :
  ∃ content, Line.read (waitWord ++ rest) = .text (waitWord ++ content) ∧
    ∀ number filled, scope.fill number (waitWord ++ content) = .ok filled →
      ¬ waitMark <+: filled
  := by
  have hword : ∀ c ∈ waitWord, isBrace c = false := by simp [waitWord, isBrace]
  obtain hread | ⟨c, content, hblank, hspace, hread⟩ := hend.read_eq hnone
  · refine ⟨[], hread, ?_⟩
    rintro number filled hfill hmark
    rw [List.append_nil, scope.fill_of_not_isBrace hword] at hfill
    rw [← Except.ok.inj hfill] at hmark
    exact absurd hmark (by decide)
  · refine ⟨c :: content, hread, ?_⟩
    rintro number filled hfill ⟨rest, hrest⟩
    have hfront : ∀ d ∈ waitWord ++ [c], isBrace d = false := by
      intro d hd
      rcases List.mem_append.mp hd with hd | hd
      · exact hword d hd
      · rw [List.mem_singleton.mp hd, isBrace]
        rw [Bool.or_eq_false_iff, beq_eq_false_iff_ne, beq_eq_false_iff_ne]
        constructor
        · rintro rfl
          exact absurd hblank (by decide)
        · rintro rfl
          exact absurd hblank (by decide)
    rw [List.append_cons] at hfill
    obtain ⟨value, rfl⟩ := scope.prefix_of_fill hfront (List.prefix_append _ _) hfill
    simp only [waitMark, waitWord, List.cons_append, List.nil_append, List.cons.injEq] at hrest
    exact hspace hrest.2.2.2.2.2.1.symm

/-! ### Waits in scripts -/

/-- A line that starts with the word is neither blank nor a header. -/
theorem waitWord_append (rest : List Char) :
  (waitWord ++ rest).all isBlank = false ∧ ¬ requireMark <+: waitWord ++ rest
  := by
  constructor
  · have hsharp : isBlank '#' = false := by decide +kernel
    simp [waitWord, hsharp]
  · rintro ⟨list, hlist⟩
    cases hlist

/-- A script that has a line of its actions alone with a number. -/
theorem actionsAt_append {number : Nat} {above here below : List Action}
    (habove : ∀ action ∈ above, action.line < number)
    (hhere : ∀ action ∈ here, action.line = number)
    (hbelow : ∀ action ∈ below, number < action.line) :
  actionsAt number (above ++ (here ++ below)) = here
  := by
  have hall : here.filter (·.line == number) = here := by
    apply List.filter_eq_self.mpr
    intro action haction
    rw [hhere action haction, beq_self_eq_true]
  have hnone : ∀ actions : List Action, (∀ action ∈ actions, action.line ≠ number) →
      actions.filter (·.line == number) = [] := by
    intro actions hactions
    apply List.filter_eq_nil_iff.mpr
    intro action haction
    rw [beq_iff_eq]
    exact hactions action haction
  rw [actionsAt, List.filter_append, List.filter_append, hall,
    hnone above fun action haction => (habove action haction).ne,
    hnone below fun action haction => (hbelow action haction).ne', List.nil_append,
    List.append_nil]

section

variable {raw : String} {before after : List (List Char)} {line content : List Char}
  (hlines : lines raw.toList = before ++ line :: after)
  (hread : Line.read line = .text (waitWord ++ content))

include hlines hread

theorem compile_eq_followedBy :
  scope.compile raw
    = Compiled.followedBy (scope.compileAbove 1 before)
        (Compiled.followedBy (scope.compileText (before.length + 1) (waitWord ++ content))
          (scope.compileLines (before.length + 1 + 1) after))
  := by
  obtain ⟨hblank, hmark⟩ := waitWord_append content
  have hline : scope.compileLine (before.length + 1) line
      = scope.compileText (before.length + 1) (waitWord ++ content) := by
    rw [compileLine, hread]
  rw [compile, hlines, scope.compileScript_append hread hblank hmark, Nat.add_comm 1, hline]

/-- The actions of a line that starts with the word, in the queue of a script. -/
theorem compileText_of_compile {queue : List Action} (h : scope.compile raw = .ok queue) :
  scope.compileText (before.length + 1) (waitWord ++ content)
    = .ok (actionsAt (before.length + 1) queue)
  := by
  rw [scope.compile_eq_followedBy hlines hread] at h
  have hhere := scope.within_compileLine (before.length + 1) line
  rw [compileLine, hread] at hhere
  have habove := (scope.within_compileAbove before 1).actions
  have hbelow := (scope.within_compileLines after (before.length + 1 + 1)).actions
  cases hfirst : scope.compileAbove 1 before with
  | error error =>
    rw [hfirst] at h
    cases h
  | ok above =>
    cases htext : scope.compileText (before.length + 1) (waitWord ++ content) with
    | error error =>
      rw [hfirst, htext] at h
      cases h
    | ok here =>
      cases hlast : scope.compileLines (before.length + 1 + 1) after with
      | error error =>
        rw [hfirst, htext, hlast] at h
        cases h
      | ok below =>
        rw [hfirst, htext, hlast] at h
        cases h
        simp only [htext] at hhere
        rw [actionsAt_append (Nat.add_comm 1 _ ▸ habove above hfirst) (hhere.actions here rfl)]
        intro action haction
        exact (hbelow below hlast action haction).1

/-- A line that comes neither to a wait nor to a complaint about one does not either in its
script. -/
theorem not_waits_compile
    (h : ¬ Compiled.Waits (before.length + 1)
      (scope.compileText (before.length + 1) (waitWord ++ content))) :
  ¬ Compiled.Waits (before.length + 1) (scope.compile raw)
  := by
  intro hwaits
  rw [scope.compile_eq_followedBy hlines hread] at hwaits
  rcases hwaits.of_followedBy with hwaits | hwaits
  · have habove := hwaits.mem (scope.within_compileAbove before 1)
    omega
  rcases hwaits.of_followedBy with hwaits | hwaits
  · exact h hwaits
  · have hbelow := hwaits.mem (scope.within_compileLines after (before.length + 1 + 1))
    omega

/-- If the lines above can be compiled, a complaint about the line is what the script comes to. -/
theorem compile_eq_error {above : List Action} (habove : scope.compileAbove 1 before = .ok above)
    {error : TimelineError}
    (herror : scope.compileText (before.length + 1) (waitWord ++ content) = .error error) :
  scope.compile raw = .error error
  := by
  rw [scope.compile_eq_followedBy hlines hread, habove, herror]
  rfl

end

section

variable {raw : String} {before after : List (List Char)} {line interval : List Char}
  (hlines : lines raw.toList = before ++ line :: after)
  (hread : Line.read line = .text (waitMark ++ interval))

include hlines hread

/-- A line whose mark is kept comes to one wait in each queue of its script. -/
theorem exists_delay_of_compile {queue : List Action} (h : scope.compile raw = .ok queue) :
  ∃ milliseconds,
    actionsAt (before.length + 1) queue = [.delay (before.length + 1) milliseconds]
  := by
  have htext : scope.compileText (before.length + 1) (waitMark ++ interval)
      = .ok (actionsAt (before.length + 1) queue) := scope.compileText_of_compile hlines hread h
  cases hfill : scope.fill (before.length + 1) (waitMark ++ interval) with
  | error error =>
    rw [scope.compileText_of_fill_error hfill] at htext
    cases htext
  | ok filled =>
    obtain ⟨value, rfl⟩ := scope.prefix_of_fill not_isBrace_of_mem_waitMark
      (List.prefix_append _ _) hfill
    rw [scope.compileText_wait hfill] at htext
    split at htext
    · rename_i milliseconds _
      exact ⟨milliseconds, (Except.ok.inj htext).symm⟩
    · cases htext

/-- Whether the arguments can be put into a line whose mark is kept, and whether they make its
interval a number, decides what its script comes to. -/
theorem compile_cases_of_fill {above : List Action}
    (habove : scope.compileAbove 1 before = .ok above) :
  (∀ error, scope.fill (before.length + 1) (waitMark ++ interval) = .error error →
    scope.compile raw = .error error) ∧
  ∀ filled, scope.fill (before.length + 1) (waitMark ++ interval) = .ok filled →
    ∃ value, filled = waitMark ++ value ∧
      (word? (trim value) = none →
        scope.compile raw = .error (.invalidWait (before.length + 1) (String.ofList value))) ∧
      ∀ milliseconds, word? (trim value) = some milliseconds →
        ∀ queue, scope.compile raw = .ok queue →
          actionsAt (before.length + 1) queue = [.delay (before.length + 1) milliseconds]
  := by
  constructor
  · intro error hfill
    exact scope.compile_eq_error hlines hread habove (scope.compileText_of_fill_error hfill)
  · intro filled hfill
    obtain ⟨value, rfl⟩ := scope.prefix_of_fill not_isBrace_of_mem_waitMark
      (List.prefix_append _ _) hfill
    have htext := scope.compileText_wait hfill
    refine ⟨value, rfl, ?_, ?_⟩
    · intro hvalue
      rw [hvalue] at htext
      exact scope.compile_eq_error hlines hread habove htext
    · intro milliseconds hvalue queue hqueue
      have hactions := scope.compileText_of_compile hlines hread hqueue
      rw [hvalue] at htext
      exact Except.ok.inj (hactions.symm.trans htext)

end

/-- In a script, a line that starts with the word for a wait comes to one wait, or the script
cannot be compiled, if an interval stands after the word: if what stands above can be compiled, and
the arguments can be put into the line, the script comes to the complaint about this line unless
the interval is a number. Without an interval, the line comes neither to a wait nor to that
complaint. -/
theorem compile_waitWord {raw : String} {before after : List (List Char)} {rest : List Char}
    (hlines : lines raw.toList = before ++ (waitWord ++ rest) :: after) (hend : EndsWord rest) :
  (HasInterval rest →
    ∃ content, Line.read (waitWord ++ rest) = .text content ∧
      (∀ queue, scope.compile raw = .ok queue →
        ∃ milliseconds, actionsAt (before.length + 1) queue
          = [.delay (before.length + 1) milliseconds]) ∧
      ∀ above, scope.compileAbove 1 before = .ok above →
        (∀ error, scope.fill (before.length + 1) content = .error error →
          scope.compile raw = .error error) ∧
        ∀ filled, scope.fill (before.length + 1) content = .ok filled →
          ∃ value, filled = waitMark ++ value ∧
            (word? (trim value) = none →
              scope.compile raw
                = .error (.invalidWait (before.length + 1) (String.ofList value))) ∧
            ∀ milliseconds, word? (trim value) = some milliseconds →
              ∀ queue, scope.compile raw = .ok queue →
                actionsAt (before.length + 1) queue
                  = [.delay (before.length + 1) milliseconds]) ∧
  (¬ HasInterval rest → ¬ Compiled.Waits (before.length + 1) (scope.compile raw))
  := by
  constructor
  · intro hinterval
    obtain ⟨interval, hread⟩ := hinterval.read_eq
    refine ⟨_, hread, ?_, ?_⟩
    · intro queue hqueue
      exact scope.exists_delay_of_compile hlines hread hqueue
    · intro above habove
      exact scope.compile_cases_of_fill hlines hread habove
  · intro hnone
    obtain ⟨content, hread, hfilled⟩ := scope.exists_read_of_not_hasInterval hend hnone
    exact scope.not_waits_compile hlines hread (scope.not_waits_compileText (hfilled _))

/-- A wait below a command, an interval that is an argument and empty, and a line on which nothing
but a comment follows the word. -/
theorem compile_waitWord_say :
  let say : Command := { given := ["say"] }
  let scope : Scope := { name := "show", params := [""], commands := [say], specifiers := {} }
  let queue : List Action := [.invoke 1 "say" say "say hi" false ["hi"], .delay 2 5]
  scope.compile "say hi\n#wait 5 // ms" = .ok queue ∧
  (∃ milliseconds, actionsAt 2 queue = [.delay 2 milliseconds]) ∧
  scope.compile "#wait \x7b0\x7d" = .error (.invalidWait 1 "") ∧
  ¬ Compiled.Waits 1 (scope.compile "#wait // soon")
  := by
  intro say scope queue
  have hsay : lines "say hi\n#wait 5 // ms".toList
      = ["say hi".toList] ++ (waitWord ++ " 5 // ms".toList) :: [] := by decide +kernel
  have hparam : lines "#wait \x7b0\x7d".toList
      = [] ++ (waitWord ++ " \x7b0\x7d".toList) :: [] := by decide +kernel
  have hbare : lines "#wait // soon".toList
      = [] ++ (waitWord ++ " // soon".toList) :: [] := by decide +kernel
  have hblank : isBlank ' ' = true := by decide +kernel
  have hqueue : scope.compile "say hi\n#wait 5 // ms" = .ok queue := by decide +kernel
  refine ⟨hqueue, ?_, ?_, ?_⟩
  · obtain ⟨content, -, hwait, -⟩ := (scope.compile_waitWord hsay (.blank hblank)).1
      ⟨_, rfl, '5', by decide +kernel⟩
    exact hwait queue hqueue
  · obtain ⟨content, hread, -, hfailed⟩ := (scope.compile_waitWord hparam (.blank hblank)).1
      ⟨_, rfl, '0', by decide +kernel⟩
    have hcontent : Line.read (waitWord ++ " \x7b0\x7d".toList)
        = .text (waitMark ++ "\x7b0\x7d".toList) := by decide +kernel
    obtain rfl := Line.text.inj (hread.symm.trans hcontent)
    have hfill : scope.fill 1 (waitMark ++ "\x7b0\x7d".toList) = .ok waitMark := by decide +kernel
    obtain ⟨value, hvalue, hinvalid, -⟩ := (hfailed [] rfl).2 _ hfill
    obtain rfl : value = [] := List.append_cancel_left (hvalue.symm.trans (List.append_nil _).symm)
    exact hinvalid rfl
  · apply (scope.compile_waitWord hbare (.blank hblank)).2
    rintro ⟨more, hmore, c, hc, -⟩
    obtain rfl : more = "// soon".toList := (List.cons.inj hmore).2.symm
    cases hc

/-- The word alone is the name of a command, or of a response: the plain space that ends the mark of
a wait is trimmed off with the other blanks. -/
theorem compile_waitWord_bare :
  let scope : Scope := { name := "show", params := [], commands := [], specifiers := {} }
  lines "#wait ".toList = [] ++ (waitWord ++ [' ']) :: [] ∧ EndsWord [' '] ∧
  scope.compile "#wait " = .ok [.deliver 1 "#wait" "#wait" []]
  := by
  intro scope
  exact ⟨by decide +kernel, .blank (by decide +kernel), by decide +kernel⟩

end Scope

end CommandTimelines.Script
