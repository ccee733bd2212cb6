import CommandTimelines.Proofs.Numbering

/-!
# The layout of a script

How a script is laid out does not matter to what it is compiled to. Blanks at the end of a line,
a comment after them, and a carriage return before a line feed change nothing at all. A line with
nothing on it, or with nothing but a comment, changes only the numbers of the lines from there
on. Both are said by `Scope.compile_layout`, of scripts with a header and of lines without one.

Two steps lead there. A text may be compiled from its pieces between line feeds, as if each of
them were a line, since what tells the pieces from the lines is not read
(`IsLineByLine.lines_eq`). And among pieces, a blank one only counts (`Scope.compileLines_insert`,
`Scope.compileScript_insert`).
-/

namespace CommandTimelines.Script

open Host Text

/-! ### Changes of the layout -/

/-- Whether a line ends where a text begins. -/
def EndsLine (text : List Char) : Prop :=
  text = [] ∨ (∃ rest, text = '\n' :: rest) ∨ ∃ rest, text = '\r' :: '\n' :: rest

/-- A text, and the same text with more at the end of one of its lines that is not read. -/
inductive Trailed : List Char → List Char → Prop where
  /-- Blanks, and perhaps a comment after them. -/
  | trail {front trail rest : List Char} (trail_isTrail : IsTrail trail) (newline : '\n' ∉ trail)
    (rest_endsLine : EndsLine rest) : Trailed (front ++ rest) (front ++ trail ++ rest)
  /-- A carriage return before a line feed. -/
  | carriageReturn {front rest : List Char} :
    Trailed (front ++ '\n' :: rest) (front ++ '\r' :: '\n' :: rest)

/-- A text, and the same text with a line of the given number put in. -/
inductive Inserted (line : List Char) : Nat → List Char → List Char → Prop where
  /-- Above a line, or below all lines if each of them has been ended. -/
  | ended {front rest : List Char} (front_startsLine : StartsLine front) :
    Inserted line (1 + front.count '\n') (front ++ rest) (front ++ line ++ '\n' :: rest)
  /-- Below all lines, each of which has been ended, without being ended itself. -/
  | last {front : List Char} (front_startsLine : StartsLine front) :
    Inserted line (1 + front.count '\n') front (front ++ line)
  /-- Below a last line that has not been ended. -/
  | below {front : List Char} :
    Inserted line (2 + front.count '\n') front (front ++ '\n' :: line)

/-- The number of a line after another one has been put in that has the number `number` then. -/
def makeRoom (number line : Nat) : Nat := if line < number then line else line + 1

/-! ### Blank lines -/

/-- A blank line is a comment or has nothing on it. -/
theorem Line.eq_of_isBlank {line : List Char} (h : (Line.read line).isBlank = true) :
  Line.read line = .comment ∨ Line.read line = .text []
  := by
  by_cases hcomment : ∃ rest, line = '/' :: '/' :: rest
  · obtain ⟨rest, rfl⟩ := hcomment
    exact .inl rfl
  · right
    rw [not_exists] at hcomment
    rw [read_of_not_comment hcomment] at h ⊢
    have hall : ∀ c ∈ trimEnd (beforeComment line), Text.isBlank c = true :=
      List.all_eq_true.mp h
    rw [← trimEnd_trimEnd, trimEnd_eq_nil hall]

namespace Scope

variable {R : Type} [Resolver R] (scope : Scope R)

theorem compileLine_of_isBlank (hsplit : Resolver.split scope.commands [] = [])
    {line : List Char} (h : (Line.read line).isBlank = true) (number : Nat) :
  scope.compileLine number line = .ok []
  := by
  rw [compileLine]
  obtain hread | hread := Line.eq_of_isBlank h
  · rw [hread]
  · rw [hread]
    exact scope.compileText_nil hsplit number

/-- Lines below a blank one come to what they come to with their numbers counted on. -/
theorem compileLines_insert (hsplit : Resolver.split scope.commands [] = [])
    {line : List Char} (h : (Line.read line).isBlank = true) (ls ks : List (List Char))
    (number : Nat) :
  scope.compileLines number (ls ++ line :: ks)
    = Compiled.mapLine (makeRoom (number + ls.length)) (scope.compileLines number (ls ++ ks))
  := by
  have habove : scope.compileLines number ls
      = Compiled.mapLine (makeRoom (number + ls.length)) (scope.compileLines number ls) := by
    apply compileLines_mapLine
    intro i hi
    rw [makeRoom, if_pos (by omega)]
  have hbelow : scope.compileLines (number + ls.length + 1) ks
      = Compiled.mapLine (makeRoom (number + ls.length))
        (scope.compileLines (number + ls.length) ks) := by
    apply compileLines_mapLine
    intro i _
    rw [makeRoom, if_neg (by omega)]
    omega
  rw [compileLines_append, compileLines_append, compileLines_cons, Compiled.mapLine_followedBy,
    ← habove, ← hbelow, scope.compileLine_of_isBlank hsplit h, Compiled.nil_followedBy]

/-! ### Blank lines and the header -/

theorem compileScript_of_isBlank {line : List Char} (h : (Line.read line).isBlank = true)
    (rest : List (List Char)) (number : Nat) :
  scope.compileScript number (line :: rest) = scope.compileScript (number + 1) rest
  := by
  obtain hread | hread := Line.eq_of_isBlank h
  · rw [compileScript, hread]
  · rw [compileScript, hread]
    rfl

/-- The first line that is not blank is the header, or else the first line of the body. -/
theorem compileScript_of_not_isBlank {line : List Char} (h : (Line.read line).isBlank = false) :
  (∃ names, ∀ (rest : List (List Char)) (number : Nat), scope.compileScript number (line :: rest)
      = if scope.params.length < names.length then .error (.missingParameters names)
        else scope.compileLines (number + 1) rest)
    ∨ ∀ (rest : List (List Char)) (number : Nat), scope.compileScript number (line :: rest)
      = scope.compileLines number (line :: rest)
  := by
  cases hread : Line.read line with
  | comment =>
    rw [hread] at h
    cases h
  | text content =>
    rw [hread] at h
    have hblank : content.all isBlank = false := h
    cases hheader : header? content with
    | none =>
      right
      intro rest number
      simp only [compileScript, hread, hblank, hheader]
      rfl
    | some names =>
      left
      use names
      intro rest number
      simp only [compileScript, hread, hblank, hheader]
      rfl

theorem compileScript_mapLine (f : Nat → Nat) (ls : List (List Char)) :
  ∀ number other, (∀ i < ls.length, f (number + i) = other + i) →
    scope.compileScript other ls = Compiled.mapLine f (scope.compileScript number ls)
  := by
  induction ls with
  | nil =>
    intro number other _
    rfl
  | cons l ls ih =>
    intro number other hf
    have hrest := counted_tail hf
    cases hl : (Line.read l).isBlank with
    | true =>
      rw [scope.compileScript_of_isBlank hl, scope.compileScript_of_isBlank hl, ih _ _ hrest]
    | false =>
      obtain ⟨names, hscript⟩ | hscript := scope.compileScript_of_not_isBlank hl
      · rw [hscript, hscript]
        split
        · rfl
        · apply compileLines_mapLine
          exact hrest
      · rw [hscript, hscript]
        apply compileLines_mapLine
        exact hf

theorem compileScript_insert (hsplit : Resolver.split scope.commands [] = [])
    {line : List Char} (h : (Line.read line).isBlank = true) (ls ks : List (List Char)) :
  ∀ number, scope.compileScript number (ls ++ line :: ks)
    = Compiled.mapLine (makeRoom (number + ls.length)) (scope.compileScript number (ls ++ ks))
  := by
  induction ls with
  | nil =>
    intro number
    rw [List.nil_append, List.nil_append, scope.compileScript_of_isBlank h]
    apply compileScript_mapLine
    intro i _
    rw [makeRoom, List.length_nil, if_neg (by omega)]
    omega
  | cons l ls ih =>
    intro number
    have hcount : number + 1 + ls.length = number + (l :: ls).length := by
      rw [List.length_cons]
      omega
    rw [List.cons_append, List.cons_append]
    cases hl : (Line.read l).isBlank with
    | true =>
      rw [scope.compileScript_of_isBlank hl, scope.compileScript_of_isBlank hl, ih, hcount]
    | false =>
      obtain ⟨names, hscript⟩ | hscript := scope.compileScript_of_not_isBlank hl
      · rw [hscript, hscript]
        split
        · rfl
        · rw [scope.compileLines_insert hsplit h, hcount]
      · rw [hscript, hscript, ← List.cons_append, ← List.cons_append,
          scope.compileLines_insert hsplit h]

theorem compileScript_congr {ls ks : List (List Char)} (h : ls.map Line.read = ks.map Line.read) :
  ∀ number, scope.compileScript number ls = scope.compileScript number ks
  := by
  induction ls generalizing ks with
  | nil =>
    intro number
    obtain rfl : ks = [] := by simpa using h.symm
    rfl
  | cons l ls ih =>
    intro number
    have hbody := scope.compileLines_congr h number
    obtain ⟨k, ks, rfl, hread, hrest⟩ := List.map_eq_cons_iff.mp h.symm
    have hlater := scope.compileLines_congr hrest.symm (number + 1)
    rw [compileScript, compileScript, hread, ih hrest.symm, hbody, hlater]

end Scope

/-! ### Compiling with and without a header -/

/-- A way of compiling lines, the first of which has a given number, for which only counts what is
read of them, and blank ones not even so. -/
structure IsLineByLine (compile : Nat → List (List Char) → Compiled) : Prop where
  congr : ∀ {ls ks : List (List Char)}, ls.map Line.read = ks.map Line.read →
    ∀ number, compile number ls = compile number ks
  mapLine : ∀ (f : Nat → Nat) (ls : List (List Char)) (number other : Nat),
    (∀ i < ls.length, f (number + i) = other + i) →
      compile other ls = Compiled.mapLine f (compile number ls)
  insert : ∀ {line : List Char}, (Line.read line).isBlank = true →
    ∀ (ls ks : List (List Char)) (number : Nat), compile number (ls ++ line :: ks)
      = Compiled.mapLine (makeRoom (number + ls.length)) (compile number (ls ++ ks))

theorem Scope.isLineByLine_compileLines {R : Type} [Resolver R] (scope : Scope R)
    (hsplit : Resolver.split scope.commands [] = []) :
  IsLineByLine scope.compileLines
  := ⟨scope.compileLines_congr, scope.compileLines_mapLine, scope.compileLines_insert hsplit⟩

theorem Scope.isLineByLine_compileScript {R : Type} [Resolver R] (scope : Scope R)
    (hsplit : Resolver.split scope.commands [] = []) :
  IsLineByLine scope.compileScript
  := ⟨scope.compileScript_congr, scope.compileScript_mapLine, scope.compileScript_insert hsplit⟩

namespace IsLineByLine

variable {compile : Nat → List (List Char) → Compiled} (h : IsLineByLine compile)
include h

/-- A blank line below all others does not even count. -/
theorem concat {line : List Char} (hline : (Line.read line).isBlank = true)
    (ls : List (List Char)) (number : Nat) :
  compile number (ls ++ [line]) = compile number ls
  := by
  rw [h.insert hline, List.append_nil]
  symm
  apply h.mapLine
  intro i hi
  rw [makeRoom, if_pos (by omega)]

/-- The lines of a text may as well be its pieces between line feeds. -/
theorem lines_eq (text : List Char) (number : Nat) :
  compile number (lines text) = compile number (pieces '\n' text)
  := by
  obtain ⟨ps, p, hpieces⟩ := exists_pieces_append '\n' text
  have htext : pieces '\n' text = ps ++ [p] := by simpa using hpieces []
  have hread : ps.map (Line.read ∘ dropReturn) = ps.map Line.read := by
    apply List.map_congr_left
    intro line _
    apply Line.read_dropReturn
  rw [lines_eq_of_pieces htext, htext]
  by_cases hp : p = []
  · rw [if_pos hp, hp, h.concat rfl, List.append_nil]
    apply h.congr
    rw [List.map_map, hread]
  · rw [if_neg hp]
    apply h.congr
    rw [List.map_append, List.map_append, List.map_map, hread]

end IsLineByLine

/-! ### Pieces of changed texts -/

/-- The pieces of a text to which more is added at the end of a line are read as before. -/
theorem map_read_pieces_trail {trail : List Char} (h : IsTrail trail) (hnewline : '\n' ∉ trail)
    (front rest : List Char) (hrest : rest = [] ∨ ∃ more, rest = '\n' :: more) :
  (pieces '\n' (front ++ trail ++ rest)).map Line.read
    = (pieces '\n' (front ++ rest)).map Line.read
  := by
  obtain ⟨ps, p, hpieces⟩ := exists_pieces_append '\n' front
  have hfront : pieces '\n' front = ps ++ [p] := by simpa using hpieces []
  have hread : (pieces '\n' (front ++ trail)).map Line.read
      = (pieces '\n' front).map Line.read := by
    simp [hpieces trail hnewline, hfront, Line.read_append_trail h]
  obtain rfl | ⟨more, rfl⟩ := hrest
  · rw [List.append_nil, List.append_nil, hread]
  · rw [pieces_append_sep, pieces_append_sep, List.map_append, List.map_append, hread]

theorem Trailed.map_read_pieces {before after : List Char} (h : Trailed before after) :
  (pieces '\n' after).map Line.read = (pieces '\n' before).map Line.read
  := by
  have hreturn : '\n' ∉ ['\r'] := by decide
  cases h with
  | @trail front trail rest htrail hnewline hrest =>
    obtain rfl | ⟨more, rfl⟩ | ⟨more, rfl⟩ := hrest
    · exact map_read_pieces_trail htrail hnewline _ _ (.inl rfl)
    · exact map_read_pieces_trail htrail hnewline _ _ (.inr ⟨more, rfl⟩)
    · -- The carriage return of the line's end is at the end of what is not read.
      have hlong : '\n' ∉ trail ++ ['\r'] := by simp [hnewline]
      have hboth := map_read_pieces_trail htrail.append_return hlong front ('\n' :: more)
        (.inr ⟨more, rfl⟩)
      have hend := map_read_pieces_trail isTrail_return hreturn front ('\n' :: more)
        (.inr ⟨more, rfl⟩)
      simpa using hboth.trans hend.symm
  | @carriageReturn front rest =>
    simpa using map_read_pieces_trail isTrail_return hreturn front ('\n' :: rest)
      (.inr ⟨rest, rfl⟩)

/-- Pieces of whole lines stand apart from the pieces of what is below. -/
theorem exists_pieces_of_startsLine {front : List Char} (h : StartsLine front) :
  ∃ ps, ps.length = front.count '\n' ∧ ∀ rest, pieces '\n' (front ++ rest) = ps ++ pieces '\n' rest
  := by
  obtain rfl | hlast := h
  · exact ⟨[], rfl, fun rest => rfl⟩
  · obtain ⟨above, rfl⟩ := List.getLast?_eq_some_iff.mp hlast
    refine ⟨pieces '\n' above, ?_, ?_⟩
    · rw [length_pieces, List.count_append, List.count_singleton_self]
    · intro rest
      rw [List.append_assoc, List.singleton_append, pieces_append_sep]

namespace IsLineByLine

variable {compile : Nat → List (List Char) → Compiled} (h : IsLineByLine compile)
include h

/-- What is not read at the end of a line changes nothing. -/
theorem trailed {before after : List Char} (hchange : Trailed before after) (number : Nat) :
  compile number (lines after) = compile number (lines before)
  := by
  rw [h.lines_eq, h.lines_eq]
  apply h.congr
  apply hchange.map_read_pieces

/-- A blank line changes only the numbers of the lines from there on. -/
theorem inserted {line : List Char} (hline : (Line.read line).isBlank = true)
    (hnewline : '\n' ∉ line) {number : Nat} {before after : List Char}
    (hchange : Inserted line number before after) :
  compile 1 (lines after) = Compiled.mapLine (makeRoom number) (compile 1 (lines before))
  := by
  rw [h.lines_eq, h.lines_eq]
  cases hchange with
  | @ended front rest hfront =>
    obtain ⟨ps, hlength, hpieces⟩ := exists_pieces_of_startsLine hfront
    rw [List.append_assoc, hpieces, hpieces, pieces_append_sep, pieces_of_not_mem hnewline,
      ← hlength]
    apply h.insert hline
  | last hfront =>
    obtain ⟨ps, hlength, hpieces⟩ := exists_pieces_of_startsLine hfront
    have hends : pieces '\n' before = ps ++ [[]] := by simpa [pieces] using hpieces []
    rw [hpieces, hends, pieces_of_not_mem hnewline, h.insert hline, hlength, List.append_nil,
      h.concat rfl]
  | below =>
    rw [pieces_append_sep, pieces_of_not_mem hnewline, h.insert hline, List.append_nil,
      length_pieces]
    congr 2
    omega

end IsLineByLine

/-! ### The layout does not matter -/

/-- Comments, blanks and line ends are not seen by compiling. What is put at the end of a line
without being read leaves actions, errors and line numbers as they are; and a blank line that is
put in, or a comment, leaves them as they are up to the numbers of the lines from there on, each
of which is one higher. The host need only find no words where nothing is. -/
theorem Scope.compile_layout {R : Type} [Resolver R] (scope : Scope R)
    (hsplit : Resolver.split scope.commands [] = []) :
  (∀ before after, Trailed before after →
    scope.compile (String.ofList after) = scope.compile (String.ofList before)
    ∧ scope.compileBody (String.ofList after) = scope.compileBody (String.ofList before))
  ∧ ∀ line number before after, (Line.read line).isBlank = true → '\n' ∉ line →
    Inserted line number before after →
    scope.compile (String.ofList after)
      = Compiled.mapLine (makeRoom number) (scope.compile (String.ofList before))
    ∧ scope.compileBody (String.ofList after)
      = Compiled.mapLine (makeRoom number) (scope.compileBody (String.ofList before))
  := by
  have hscript := scope.isLineByLine_compileScript hsplit
  have hlines := scope.isLineByLine_compileLines hsplit
  simp only [compile, compileBody, String.toList_ofList]
  constructor
  · intro before after hchange
    exact ⟨hscript.trailed hchange 1, hlines.trailed hchange 1⟩
  · intro line number before after hline hnewline hchange
    exact ⟨hscript.inserted hline hnewline hchange, hlines.inserted hline hnewline hchange⟩

/-- A comment after the header, and a comment on a line of its own below it. -/
theorem Scope.compile_layout_greeting :
  let say : Command := { given := ["say"] }
  let scope : Scope := { name := "show", params := ["you"], commands := [say], specifiers := {} }
  let header := "#req who".toList
  let rest := "say hi \x7b0\x7d".toList
  let trail := " // once".toList
  let line := "  // greeting".toList
  scope.compile (String.ofList (header ++ '\n' :: rest))
      = .ok [.invoke 2 "say" say "say hi you" false ["hi", "you"]]
    ∧ scope.compile (String.ofList (header ++ trail ++ '\n' :: rest))
      = .ok [.invoke 2 "say" say "say hi you" false ["hi", "you"]]
    ∧ scope.compile (String.ofList (header ++ ['\n'] ++ line ++ '\n' :: rest))
      = .ok [.invoke 3 "say" say "say hi you" false ["hi", "you"]]
  := by
  intro say scope header rest trail line
  have hplain : scope.compile (String.ofList (header ++ '\n' :: rest))
      = .ok [.invoke 2 "say" say "say hi you" false ["hi", "you"]] := by decide +kernel
  obtain ⟨htrailed, hinserted⟩ := scope.compile_layout rfl
  have htrail : IsTrail trail :=
    ⟨[' '], "// once".toList, by decide +kernel, by decide,
      List.forall_mem_singleton.mpr (by decide), .inr ⟨_, rfl⟩⟩
  have hchange : Trailed (header ++ '\n' :: rest) (header ++ trail ++ '\n' :: rest) :=
    .trail htrail (by decide +kernel) (.inr (.inl ⟨rest, rfl⟩))
  have hstarts : StartsLine (header ++ ['\n']) := .inr List.getLast?_concat
  have hcomment : Inserted line 2 (header ++ ['\n'] ++ rest)
      (header ++ ['\n'] ++ line ++ '\n' :: rest) :=
    .ended hstarts
  refine ⟨hplain, ?_, ?_⟩
  · rw [(htrailed _ _ hchange).1, hplain]
  · rw [(hinserted line 2 _ _ (by decide +kernel) (by decide +kernel) hcomment).1,
      List.append_assoc, List.singleton_append, hplain]
    rfl

end CommandTimelines.Script
