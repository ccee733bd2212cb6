import CommandTimelines.Proofs.Lines

/-!
# Line numbers

Compiling a script line by line gives either the actions of its lines, one line after the other,
or the fault of the first line that has one (`Compiled.followedBy`). What a line comes to depends
on its number only in that actions and errors carry it (`Scope.compileText_mapLine`), so that
lines which are numbered otherwise come to the same, numbered otherwise
(`Scope.compileLines_mapLine`).

Nothing is carried from one line to the next: a script put in front of another one decides alone
whether it can be compiled, and to what, and the other one comes to what it comes to by itself,
with its lines counted on (`Scope.compileBody_append`). The line feed between them may end a line
with nothing on it, which comes to nothing if the host finds no words there. A host of another kind,
such as one that cuts lines at every space, finds a command on it
(`Scope.compileBody_newline_spaced`).
-/

namespace CommandTimelines

open Host Text

/-! ### Lines counted otherwise -/

/-- An action as it is on a line with another number. -/
def Script.Action.mapLine (f : Nat → Nat) : Script.Action → Script.Action
  | .delay line milliseconds => .delay (f line) milliseconds
  | .invoke line name command raw silent args => .invoke (f line) name command raw silent args
  | .deliver line key raw args => .deliver (f line) key raw args

/-- An error as it is on a line with another number. -/
def TimelineError.mapLine (f : Nat → Nat) : TimelineError → TimelineError
  | .invalidWait line value => .invalidWait (f line) value
  | .consoleForbidden name command line => .consoleForbidden name command (f line)
  | .unbound line cause => .unbound (f line) cause
  | .misplacedRequire name line => .misplacedRequire name (f line)
  | other => other

namespace Script

/-- What compiling comes to: the actions of all lines, or the first fault. -/
abbrev Compiled := Except TimelineError (List Action)

namespace Compiled

/-- A result on lines with other numbers. -/
def mapLine (f : Nat → Nat) : Compiled → Compiled
  | .ok actions => .ok (actions.map (·.mapLine f))
  | .error error => .error (error.mapLine f)

/-- The result of lines with results of their own, one after the other: the first error, if there
is one, and else all actions. -/
def followedBy (here later : Compiled) : Compiled := do
  let p ← here
  let q ← later
  return p ++ q

@[simp]
theorem error_followedBy (error : TimelineError) (later : Compiled) :
  followedBy (.error error) later = .error error
  := rfl

@[simp]
theorem ok_followedBy (actions : List Action) (later : Compiled) :
  followedBy (.ok actions) later = later.map (actions ++ ·)
  := by
  cases later with
  | error error => rfl
  | ok q => rfl

@[simp]
theorem nil_followedBy (later : Compiled) :
  followedBy (.ok []) later = later
  := by
  cases later with
  | error error => rfl
  | ok q => rfl

@[simp]
theorem followedBy_nil (here : Compiled) :
  here.followedBy (.ok []) = here
  := by
  cases here with
  | error error => rfl
  | ok p => simp [Except.map]

theorem followedBy_assoc (r s t : Compiled) :
  (r.followedBy s).followedBy t = r.followedBy (s.followedBy t)
  := by
  cases r with
  | error error => rfl
  | ok p =>
    cases s with
    | error error => rfl
    | ok q =>
      cases t with
      | error error => rfl
      | ok u => simp [Except.map]

theorem mapLine_followedBy (f : Nat → Nat) (r s : Compiled) :
  (r.followedBy s).mapLine f = (r.mapLine f).followedBy (s.mapLine f)
  := by
  cases r with
  | error error => rfl
  | ok p =>
    cases s with
    | error error => rfl
    | ok q => simp [mapLine, Except.map]

end Compiled

/-! ### A host of another kind -/

/-- A host that cuts command lines at every space, and so finds a word where nothing is: an empty
one. -/
structure SpacedHost where
  commands : List Command := []
deriving DecidableEq, Repr

instance : Resolver SpacedHost where
  find host := Command.allNamed host.commands
  split _ := pieces ' '

/-! ### The number of a line -/

namespace Scope

variable {R : Type} (scope : Scope R)

theorem fill_mapLine (f : Nat → Nat) (number : Nat) (text : List Char) :
  scope.fill (f number) text = (scope.fill number text).mapError (·.mapLine f)
  := by
  rw [fill, fill]
  split
  · rfl
  · cases bindChars scope.params text with
    | error fault => rfl
    | ok filled => rfl

/-- Whether a line can be filled does not depend on its number. -/
theorem fill_eq_ok {number : Nat} {content filled : List Char}
    (h : scope.fill number content = .ok filled) (other : Nat) :
  scope.fill other content = .ok filled
  := by
  have hother := scope.fill_mapLine (fun _ => other) number content
  rw [h] at hother
  exact hother

variable [Resolver R]

theorem actionsOf_mapLine (f : Nat → Nat) (number : Nat) (line : CommandLine) :
  scope.actionsOf (f number) line = Compiled.mapLine f (scope.actionsOf number line)
  := by
  rw [actionsOf, actionsOf]
  split
  · rfl
  · split
    · simp [Compiled.mapLine, Action.mapLine, Function.comp_def]
    · rfl

/-- The number of a line goes only into what it comes to. -/
theorem compileText_mapLine (f : Nat → Nat) (number : Nat) (text : List Char) :
  scope.compileText (f number) text = Compiled.mapLine f (scope.compileText number text)
  := by
  rw [compileText, compileText, fill_mapLine]
  cases scope.fill number text with
  | error error => rfl
  | ok filled =>
    simp only [Except.mapError, Bind.bind, Except.bind]
    split
    · rfl
    · rfl
    · rfl
    · rfl
    · apply actionsOf_mapLine

theorem compileLine_mapLine (f : Nat → Nat) (number : Nat) (raw : List Char) :
  scope.compileLine (f number) raw = Compiled.mapLine f (scope.compileLine number raw)
  := by
  rw [compileLine, compileLine]
  cases Line.read raw with
  | comment => rfl
  | text content => apply compileText_mapLine

/-! ### One line after the other -/

theorem compileLines_cons (number : Nat) (line : List Char) (rest : List (List Char)) :
  scope.compileLines number (line :: rest)
    = Compiled.followedBy (scope.compileLine number line) (scope.compileLines (number + 1) rest)
  := rfl

theorem compileLines_append (ls ks : List (List Char)) :
  ∀ number, scope.compileLines number (ls ++ ks)
    = Compiled.followedBy (scope.compileLines number ls)
      (scope.compileLines (number + ls.length) ks)
  := by
  induction ls with
  | nil =>
    intro number
    exact (Compiled.nil_followedBy _).symm
  | cons l ls ih =>
    intro number
    rw [List.cons_append, compileLines_cons, ih, compileLines_cons, Compiled.followedBy_assoc,
      List.length_cons, Nat.add_right_comm, Nat.add_assoc]

/-- Numbers that are counted otherwise are so from the second one on. -/
theorem counted_tail {f : Nat → Nat} {n number other : Nat}
    (h : ∀ i < n + 1, f (number + i) = other + i) :
  ∀ i < n, f (number + 1 + i) = other + 1 + i
  := by
  intro i hi
  rw [Nat.add_right_comm, Nat.add_right_comm other]
  exact h (i + 1) (Nat.succ_lt_succ hi)

/-- Lines come to the same wherever their numbers begin, up to the numbers. -/
theorem compileLines_mapLine (f : Nat → Nat) (ls : List (List Char)) :
  ∀ number other, (∀ i < ls.length, f (number + i) = other + i) →
    scope.compileLines other ls = Compiled.mapLine f (scope.compileLines number ls)
  := by
  induction ls with
  | nil =>
    intro number other _
    rfl
  | cons l ls ih =>
    intro number other hf
    have hfirst : f number = other := hf 0 (by simp)
    rw [compileLines_cons, compileLines_cons, Compiled.mapLine_followedBy, ← hfirst,
      compileLine_mapLine, hfirst, ih _ _ (counted_tail hf)]

/-- Lines that are read alike are compiled alike. -/
theorem compileLines_congr {ls ks : List (List Char)} (h : ls.map Line.read = ks.map Line.read) :
  ∀ number, scope.compileLines number ls = scope.compileLines number ks
  := by
  induction ls generalizing ks with
  | nil =>
    intro number
    obtain rfl : ks = [] := by simpa using h.symm
    rfl
  | cons l ls ih =>
    intro number
    obtain ⟨k, ks, rfl, hread, hrest⟩ := List.map_eq_cons_iff.mp h.symm
    have hline : scope.compileLine number l = scope.compileLine number k := by
      rw [compileLine, compileLine, hread]
    rw [compileLines_cons, compileLines_cons, hline, ih hrest.symm]

/-! ### One text after the other -/

/-- A line with nothing on it comes to nothing, if its host finds no words where nothing is. -/
theorem compileText_nil (h : Resolver.split scope.commands [] = []) (number : Nat) :
  scope.compileText number [] = .ok []
  := by
  have hfill : scope.fill number [] = .ok [] := by
    rw [fill]
    split <;> rfl
  have hmark : ∀ mark : String, dropMark? mark [] = none := by
    intro mark
    rw [dropMark?]
    split
    · rfl
    · rename_i hne
      obtain ⟨c, rest, hmark⟩ := List.exists_cons_of_ne_nil hne
      rw [hmark]
      rfl
  have hread : Directive.read scope.specifiers [] (Resolver.split scope.commands)
      = .ok .comment := by
    simp [Directive.read, waitMark, requireMark, List.isPrefixOf?, Directive.ofCommandLine,
      unmark, hmark, h]
  rw [compileText, hfill]
  simp only [Bind.bind, Except.bind, hread]

/-- A line feed below a text makes another line if all lines of the text have been ended, and
nothing stands on it. -/
theorem compileLines_ended (s : List Char) (number : Nat) :
  scope.compileLines number ((pieces '\n' s).map dropReturn)
    = Compiled.followedBy (scope.compileLines number (lines s))
      (if StartsLine s then scope.compileText (number + s.count '\n') [] else .ok [])
  := by
  obtain ⟨ps, p, hpieces⟩ := exists_pieces_append '\n' s
  have hs : pieces '\n' s = ps ++ [p] := by simpa using hpieces []
  have hcount : (ps.map dropReturn).length = s.count '\n' := by
    have hlength := length_pieces '\n' s
    rw [hs, List.length_append] at hlength
    simpa using hlength
  have hlast := eq_nil_iff_startsLine hs
  rw [lines_eq_of_pieces hs, hs, List.map_append, compileLines_append, hcount]
  by_cases hp : p = []
  · rw [if_pos hp, if_pos (hlast.mp hp), hp, List.append_nil]
    exact congrArg _ (Compiled.followedBy_nil _)
  · rw [if_neg hp, if_neg (mt hlast.mpr hp), Compiled.followedBy_nil, compileLines_append, hcount]
    congr 1
    apply compileLines_congr
    rw [List.map_singleton, List.map_singleton, List.map_singleton, Line.read_dropReturn]

/-- Lines are compiled one by one. If the lines of a text cannot be compiled, neither can those
of the text with another one below it, and for the same reason. If they can, what they come to is
followed by what the lines of the other text come to, their numbers counted on from the lines
above. Where all lines of the text above have been ended, the line feed between the two is a line
of its own: a host that finds words where nothing is finds them there too, and no other host finds
any. -/
theorem compileBody_append (a b : String) :
  (∀ error, scope.compileBody a = .error error →
    scope.compileBody (a ++ "\n" ++ b) = .error error)
  ∧ ∀ p, scope.compileBody a = .ok p →
    (Resolver.split scope.commands [] = [] ∨ ¬ StartsLine a.toList →
      scope.compileBody (a ++ "\n" ++ b)
        = (Compiled.mapLine (· + (1 + a.toList.count '\n')) (scope.compileBody b)).map (p ++ ·))
    ∧ (StartsLine a.toList →
      scope.compileBody (a ++ "\n" ++ b)
        = (Compiled.followedBy (scope.compileText (1 + a.toList.count '\n') [])
          (Compiled.mapLine (· + (1 + a.toList.count '\n')) (scope.compileBody b))).map (p ++ ·))
  := by
  have hlines : lines (a ++ "\n" ++ b).toList
      = (pieces '\n' a.toList).map dropReturn ++ lines b.toList := by
    rw [← lines_append_newline]
    simp
  have hshift : scope.compileLines (1 + (1 + a.toList.count '\n')) (lines b.toList)
      = Compiled.mapLine (· + (1 + a.toList.count '\n')) (scope.compileBody b) := by
    apply compileLines_mapLine
    intro i _
    omega
  have happend : scope.compileBody (a ++ "\n" ++ b)
      = Compiled.followedBy (scope.compileBody a) (Compiled.followedBy
        (if StartsLine a.toList then scope.compileText (1 + a.toList.count '\n') [] else .ok [])
        (Compiled.mapLine (· + (1 + a.toList.count '\n')) (scope.compileBody b))) := by
    rw [compileBody, hlines, compileLines_append, compileLines_ended, Compiled.followedBy_assoc,
      ← hshift, List.length_map, length_pieces, Nat.add_comm (a.toList.count '\n')]
    rfl
  constructor
  · intro error ha
    rw [happend, ha, Compiled.error_followedBy]
  · intro p ha
    rw [happend, ha, Compiled.ok_followedBy]
    constructor
    · rintro (hsplit | hended)
      · rw [scope.compileText_nil hsplit, ite_self, Compiled.nil_followedBy]
      · rw [if_neg hended, Compiled.nil_followedBy]
    · intro hended
      rw [if_pos hended]

/-- A text whose last line ends in a carriage return, above one that can be compiled and above one
with a header where none may stand. -/
theorem compileBody_append_say :
  let say : Command := { given := ["say"] }
  let scope : Scope := { name := "show", params := [], commands := [say], specifiers := {} }
  let hi := [.invoke 1 "say" say "say hi" false ["hi"]]
  scope.compileBody "say hi\r" = .ok hi
    ∧ scope.compileBody ("say hi\r" ++ "\n" ++ ".say ho\n#wait 5")
      = .ok (hi ++ [.invoke 2 "say" say "say ho" true ["ho"], .delay 3 5])
    ∧ scope.compileBody ("say hi\r" ++ "\n" ++ "\n#req x") = .error (.misplacedRequire "show" 3)
  := by
  intro say scope hi
  have hhi : scope.compileBody "say hi\r" = .ok hi := by decide +kernel
  have hbelow := fun b => ((scope.compileBody_append "say hi\r" b).2 hi hhi).1 (.inl rfl)
  have hcount : "say hi\r".toList.count '\n' = 0 := by decide +kernel
  have hho : scope.compileBody ".say ho\n#wait 5"
      = .ok [.invoke 1 "say" say "say ho" true ["ho"], .delay 2 5] := by decide +kernel
  have hrequire : scope.compileBody "\n#req x" = .error (.misplacedRequire "show" 2) := by
    decide +kernel
  refine ⟨hhi, ?_, ?_⟩
  · rw [hbelow, hho, hcount]
    rfl
  · rw [hbelow, hrequire, hcount]
    rfl

/-- With a host that cuts lines at every space, two texts with nothing in them come to nothing, one
by one, and to the delivery of a response when a line feed stands between them. -/
theorem compileBody_newline_spaced :
  let scope : Scope SpacedHost :=
    { name := "show", params := [], commands := {}, specifiers := {} }
  scope.compileBody "" = .ok []
    ∧ scope.compileBody ("" ++ "\n" ++ "") = .ok [.deliver 1 "" "" []]
    ∧ scope.compileBody ("" ++ "\n" ++ "")
      ≠ (Compiled.mapLine (· + (1 + "".toList.count '\n')) (scope.compileBody "")).map ([] ++ ·)
  := by
  decide +kernel

end Scope

end Script

end CommandTimelines
