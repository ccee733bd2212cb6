import CommandTimelines.Proofs.Layout

/-!
# The header of a script

A script is compiled in two ways: `Scope.compile` looks for a header on the first line with
content, and `Scope.compileBody` does not. Apart from the header they agree, line numbers
included. A header that enough arguments are given for counts as an empty line; the lines above
it, all of them blank, count only as lines; and a script without a header is compiled as a body
(`Scope.compile_eq_compileBody`).

That arguments are missing is never said but of a header (`Scope.compileLines_ne_missing`), and
the names that it lists are what stands between its commas (`requiredNames_eq_iff`).
-/

namespace CommandTimelines.Script

open Host Text

/-! ### The names in a header -/

/-- What stands between two names in a header. -/
def nameSeparator : List Char := [',', ' ']

theorem requiredNames_ne_nil (text : List Char) :
  requiredNames text ≠ []
  := by
  fun_induction requiredNames text with
  | case1 => exact List.cons_ne_nil _ _
  | case2 rest ih => exact List.cons_ne_nil _ _
  | case3 c rest hno hnone ih => exact List.cons_ne_nil _ _
  | case4 c rest hno name names hnames ih => exact List.cons_ne_nil _ _

/-- The names in a header make up its list. -/
theorem intercalate_requiredNames (text : List Char) :
  nameSeparator.intercalate (requiredNames text) = text
  := by
  fun_induction requiredNames text with
  | case1 => rfl
  | case2 rest ih =>
    rw [List.intercalate_cons_of_ne_nil (requiredNames_ne_nil rest), ih]
    rfl
  | case3 c rest hno hnone ih => exact absurd hnone (requiredNames_ne_nil rest)
  | case4 c rest hno name names hnames ih =>
    rw [hnames] at ih
    rw [← ih]
    rcases names with _ | ⟨next, names⟩
    · rfl
    · rw [List.intercalate_cons_cons, List.intercalate_cons_cons, List.append_assoc,
        List.append_assoc]
      rfl

theorem prefix_of_requiredNames {text first : List Char} {names : List (List Char)}
    (h : requiredNames text = first :: names) :
  first <+: text
  := by
  rw [← intercalate_requiredNames text, h]
  rcases names with _ | ⟨next, names⟩
  · rw [List.intercalate_singleton]
  · rw [List.intercalate_cons_cons, List.append_assoc]
    apply List.prefix_append

/-- No separator is left in a name. -/
theorem not_infix_of_mem_requiredNames {text name : List Char} (h : name ∈ requiredNames text) :
  ¬ nameSeparator <:+: name
  := by
  have hnil : ¬ nameSeparator <:+: [] := by decide
  fun_induction requiredNames text generalizing name with
  | case1 =>
    rw [List.mem_singleton.mp h]
    exact hnil
  | case2 rest ih =>
    rcases List.mem_cons.mp h with rfl | h
    · exact hnil
    · exact ih h
  | case3 c rest hno hnone ih => exact absurd hnone (requiredNames_ne_nil rest)
  | case4 c rest hno first names hnames ih =>
    rw [hnames] at ih
    rcases List.mem_cons.mp h with rfl | h
    · rw [List.infix_cons_iff, not_or]
      constructor
      · rintro ⟨more, hmore⟩
        obtain ⟨rfl, rfl⟩ := List.cons.inj hmore
        -- The space that the name goes on with stands right after the comma in the list.
        obtain ⟨later, rfl⟩ := prefix_of_requiredNames hnames
        exact hno _ rfl rfl
      · exact ih List.mem_cons_self
    · exact ih (List.mem_cons_of_mem first h)

theorem requiredNames_cons_of_ne {c : Char} {rest first : List Char} {names : List (List Char)}
    (hc : ¬ (c = ',' ∧ ∃ more, rest = ' ' :: more)) (hrest : requiredNames rest = first :: names) :
  requiredNames (c :: rest) = (c :: first) :: names
  := by
  rw [requiredNames, hrest]
  rintro more rfl rfl
  exact hc ⟨rfl, more, rfl⟩

theorem requiredNames_append_separator {name : List Char} (h : ¬ nameSeparator <:+: name)
    (rest : List Char) :
  requiredNames (name ++ (nameSeparator ++ rest)) = name :: requiredNames rest
  := by
  induction name with
  | nil => rfl
  | cons c name ih =>
    rw [List.infix_cons_iff, not_or] at h
    rw [List.cons_append]
    apply requiredNames_cons_of_ne _ (ih h.2)
    rintro ⟨rfl, more, hmore⟩
    cases name with
    | nil => cases hmore
    | cons d name =>
      obtain ⟨rfl, -⟩ := List.cons.inj hmore
      exact h.1 ⟨name, rfl⟩

theorem requiredNames_of_not_infix {name : List Char} (h : ¬ nameSeparator <:+: name) :
  requiredNames name = [name]
  := by
  induction name with
  | nil => rfl
  | cons c name ih =>
    rw [List.infix_cons_iff, not_or] at h
    apply requiredNames_cons_of_ne _ (ih h.2)
    rintro ⟨rfl, more, rfl⟩
    exact h.1 ⟨more, rfl⟩

/-- The names in a header are what stands between the separators of its list. -/
theorem requiredNames_eq_iff (text : List Char) (names : List (List Char)) :
  requiredNames text = names
    ↔ names ≠ [] ∧ nameSeparator.intercalate names = text
      ∧ ∀ name ∈ names, ¬ nameSeparator <:+: name
  := by
  constructor
  · rintro rfl
    exact ⟨requiredNames_ne_nil text, intercalate_requiredNames text,
      fun name => not_infix_of_mem_requiredNames⟩
  · rintro ⟨hne, rfl, hnames⟩
    induction names with
    | nil => exact absurd rfl hne
    | cons first names ih =>
      have hfirst := hnames first List.mem_cons_self
      rcases names with _ | ⟨next, names⟩
      · simpa using requiredNames_of_not_infix hfirst
      · have hrest := ih (List.cons_ne_nil next names)
          fun name hname => hnames name (List.mem_cons_of_mem first hname)
        rw [List.intercalate_cons_cons, List.append_assoc,
          requiredNames_append_separator hfirst, hrest]

/-! ### The first line with content -/

/-- Whether there is nothing to do on any line of a text. -/
def HasNoContent (text : List Char) : Prop := ∀ line ∈ lines text, (Line.read line).isBlank = true

/-- A text cut at its first line that is not blank, and what is read of that line. -/
structure FirstLine (text above line below content : List Char) : Prop where
  eq_append : text = above ++ line ++ below
  above_startsLine : StartsLine above
  above_hasNoContent : HasNoContent above
  newline_not_mem : '\n' ∉ line
  below_endsLine : EndsLine below
  read_eq : Line.read line = .text content
  not_isBlank : content.all isBlank = false

theorem Line.exists_content {line : List Char} (h : (Line.read line).isBlank = false) :
  ∃ content, Line.read line = .text content ∧ content.all Text.isBlank = false
  := by
  cases hread : Line.read line with
  | comment =>
    rw [hread] at h
    cases h
  | text content =>
    rw [hread] at h
    exact ⟨content, rfl, h⟩

/-- A text has nothing to do on its lines, or there is a first line that is not blank. -/
theorem exists_firstLine {text : List Char} (h : ¬ HasNoContent text) :
  ∃ above line below content, FirstLine text above line below content
  := by
  induction hlength : text.length using Nat.strong_induction_on generalizing text with
  | _ n ih =>
    by_cases hmem : '\n' ∈ text
    · obtain ⟨line, rest, rfl, hline⟩ := List.eq_append_cons_of_mem hmem
      have hlines : lines (line ++ '\n' :: rest) = dropReturn line :: lines rest := by
        rw [lines_append_newline, pieces_of_not_mem hline]
        rfl
      cases hblank : (Line.read line).isBlank with
      | false =>
        obtain ⟨content, hread, hcontent⟩ := Line.exists_content hblank
        refine ⟨[], line, '\n' :: rest, content, rfl, .inl rfl, ?_, hline,
          .inr (.inl ⟨rest, rfl⟩), hread, hcontent⟩
        intro l hl
        cases hl
      | true =>
        have hrest : ¬ HasNoContent rest := by
          intro hrest
          apply h
          intro l hl
          rw [hlines] at hl
          rcases List.mem_cons.mp hl with rfl | hl
          · rw [Line.read_dropReturn, hblank]
          · exact hrest l hl
        have hshorter : rest.length < n := by
          rw [← hlength, List.length_append, List.length_cons]
          omega
        obtain ⟨above, first, below, content, hfirst⟩ := ih _ hshorter hrest rfl
        refine ⟨line ++ '\n' :: above, first, below, content, ?_, ?_, ?_,
          hfirst.newline_not_mem, hfirst.below_endsLine, hfirst.read_eq, hfirst.not_isBlank⟩
        · rw [hfirst.eq_append]
          simp
        · right
          obtain rfl | hlast := hfirst.above_startsLine
          · exact List.getLast?_concat
          · rw [List.getLast?_append, List.getLast?_cons, hlast]
            rfl
        · intro l hl
          rw [lines_append_newline, pieces_of_not_mem hline] at hl
          rcases List.mem_cons.mp hl with rfl | hl
          · rw [Line.read_dropReturn, hblank]
          · exact hfirst.above_hasNoContent l hl
    · have hlines : lines text = if text = [] then [] else [text] := by
        rw [lines, pieces_of_not_mem hmem, linesOfPieces]
      have hblank : (Line.read text).isBlank = false := by
        by_contra hblank
        apply h
        intro l hl
        rw [hlines] at hl
        split at hl
        · cases hl
        · rw [List.mem_singleton.mp hl]
          simpa using hblank
      obtain ⟨content, hread, hcontent⟩ := Line.exists_content hblank
      refine ⟨[], text, [], content, by simp, .inl rfl, ?_, hmem, .inl rfl, hread, hcontent⟩
      intro l hl
      cases hl

/-- Where a line ends does not depend on what stands on it. -/
theorem exists_pieces_of_endsLine {below : List Char} (h : EndsLine below) :
  ∃ qs, ∀ line, '\n' ∉ line →
    ∃ q, pieces '\n' (line ++ below) = q :: qs ∧ Line.read q = Line.read line
  := by
  obtain rfl | ⟨rest, rfl⟩ | ⟨rest, rfl⟩ := h
  · use []
    intro line hline
    use line
    rw [List.append_nil, pieces_of_not_mem hline]
    exact ⟨rfl, rfl⟩
  · use pieces '\n' rest
    intro line hline
    use line
    rw [pieces_append_sep, pieces_of_not_mem hline]
    exact ⟨rfl, rfl⟩
  · use pieces '\n' rest
    intro line hline
    have hreturn : '\n' ∉ line ++ ['\r'] := by simp [hline]
    use line ++ ['\r']
    rw [List.append_cons, pieces_append_sep, pieces_of_not_mem hreturn,
      Line.read_append_trail isTrail_return]
    exact ⟨rfl, rfl⟩

theorem isBlank_of_mem_pieces {above : List Char} (h : HasNoContent above)
    {ps : List (List Char)} (hpieces : pieces '\n' above = ps ++ [[]]) :
  ∀ p ∈ ps, (Line.read p).isBlank = true
  := by
  intro p hp
  rw [← Line.read_dropReturn]
  apply h
  rw [lines_eq_of_pieces hpieces, if_pos rfl, List.append_nil]
  exact List.mem_map_of_mem hp

/-- The pieces of a text below blank lines: whatever line stands there, it is read among the
same ones. -/
theorem FirstLine.exists_pieces {text above line below content : List Char}
    (h : FirstLine text above line below content) :
  ∃ ps qs, (∀ p ∈ ps, (Line.read p).isBlank = true)
    ∧ ∀ other, '\n' ∉ other → ∃ q, pieces '\n' (above ++ other ++ below) = ps ++ q :: qs
      ∧ Line.read q = Line.read other
  := by
  obtain ⟨ps, -, hpieces⟩ := exists_pieces_of_startsLine h.above_startsLine
  obtain ⟨qs, hqs⟩ := exists_pieces_of_endsLine h.below_endsLine
  have habove : pieces '\n' above = ps ++ [[]] := by
    simpa [pieces] using hpieces []
  refine ⟨ps, qs, isBlank_of_mem_pieces h.above_hasNoContent habove, ?_⟩
  intro other hother
  obtain ⟨q, hq, hread⟩ := hqs other hother
  exact ⟨q, by rw [List.append_assoc, hpieces, hq], hread⟩

/-! ### With and without a header -/

namespace Scope

variable {R : Type} [Resolver R] (scope : Scope R)

/-- A line is never said to lack arguments. -/
theorem compileText_ne_missing (number : Nat) (text : List Char) (names : List String) :
  scope.compileText number text ≠ .error (.missingParameters names)
  := by
  rw [compileText]
  cases hfill : scope.fill number text with
  | error error =>
    rw [fill] at hfill
    split at hfill
    · cases hfill
    · cases hbind : bindChars scope.params text with
      | ok filled =>
        rw [hbind] at hfill
        cases hfill
      | error fault =>
        rw [hbind] at hfill
        obtain rfl := Except.error.inj hfill
        rintro ⟨⟩
  | ok filled =>
    simp only [Bind.bind, Except.bind]
    split
    · rintro ⟨⟩
    · rintro ⟨⟩
    · rintro ⟨⟩
    · rintro ⟨⟩
    · rw [actionsOf]
      split
      · rintro ⟨⟩
      · split
        · rintro ⟨⟩
        · rintro ⟨⟩

theorem compileLines_ne_missing (ls : List (List Char)) (names : List String) :
  ∀ number, scope.compileLines number ls ≠ .error (.missingParameters names)
  := by
  induction ls with
  | nil =>
    rintro number ⟨⟩
  | cons l ls ih =>
    intro number
    rw [compileLines_cons]
    cases hline : scope.compileLine number l with
    | error error =>
      rw [Compiled.error_followedBy, ← hline, compileLine]
      split
      · rintro ⟨⟩
      · apply compileText_ne_missing
    | ok actions =>
      rw [Compiled.ok_followedBy]
      cases hrest : scope.compileLines (number + 1) ls with
      | error error =>
        rw [Except.map, ← hrest]
        apply ih
      | ok later => rintro ⟨⟩

theorem compileScript_append_of_isBlank {ps : List (List Char)}
    (h : ∀ p ∈ ps, (Line.read p).isBlank = true) (ls : List (List Char)) :
  ∀ number, scope.compileScript number (ps ++ ls) = scope.compileScript (number + ps.length) ls
  := by
  induction ps with
  | nil =>
    intro number
    rfl
  | cons p ps ih =>
    intro number
    rw [List.cons_append, scope.compileScript_of_isBlank (h p List.mem_cons_self),
      ih fun p hp => h p (List.mem_cons_of_mem _ hp), List.length_cons, Nat.add_right_comm,
      Nat.add_assoc]

theorem compileLines_append_of_isBlank (hsplit : Resolver.split scope.commands [] = [])
    {ps : List (List Char)} (h : ∀ p ∈ ps, (Line.read p).isBlank = true)
    (ls : List (List Char)) :
  ∀ number, scope.compileLines number (ps ++ ls) = scope.compileLines (number + ps.length) ls
  := by
  induction ps with
  | nil =>
    intro number
    rfl
  | cons p ps ih =>
    intro number
    rw [List.cons_append, compileLines_cons,
      scope.compileLine_of_isBlank hsplit (h p List.mem_cons_self), Compiled.nil_followedBy,
      ih fun p hp => h p (List.mem_cons_of_mem _ hp), List.length_cons, Nat.add_right_comm,
      Nat.add_assoc]

/-- A header is taken off before anything is compiled. -/
theorem compileScript_of_header {line list : List Char}
    (hread : Line.read line = .text (requireMark ++ list))
    (hblank : (requireMark ++ list).all isBlank = false) (rest : List (List Char))
    (number : Nat) :
  scope.compileScript number (line :: rest)
    = if scope.params.length < (requiredNames list).length
      then .error (.missingParameters ((requiredNames list).map String.ofList))
      else scope.compileLines (number + 1) rest
  := by
  have hheader : header? (requireMark ++ list)
      = some ((requiredNames list).map String.ofList) := by
    rw [header?, List.isPrefixOf?_eq_some_iff_append_eq.mpr rfl]
    rfl
  simp only [compileScript, hread, hblank, hheader, List.length_map]
  rfl

theorem compileScript_of_not_header {line content : List Char}
    (hread : Line.read line = .text content) (hblank : content.all isBlank = false)
    (hmark : ¬ requireMark <+: content) (rest : List (List Char)) (number : Nat) :
  scope.compileScript number (line :: rest) = scope.compileLines number (line :: rest)
  := by
  have hheader : header? content = none := by
    rw [header?, Option.map_eq_none_iff, Option.eq_none_iff_forall_ne_some]
    intro list hlist
    exact hmark ⟨list, List.isPrefixOf?_eq_some_iff_append_eq.mp hlist⟩
  simp only [compileScript, hread, hblank, hheader]
  rfl

theorem compile_ofList (hsplit : Resolver.split scope.commands [] = []) (text : List Char) :
  scope.compile (String.ofList text) = scope.compileScript 1 (pieces '\n' text)
  := by
  rw [compile, String.toList_ofList, (scope.isLineByLine_compileScript hsplit).lines_eq]

theorem compileBody_ofList (hsplit : Resolver.split scope.commands [] = []) (text : List Char) :
  scope.compileBody (String.ofList text) = scope.compileLines 1 (pieces '\n' text)
  := by
  rw [compileBody, String.toList_ofList, (scope.isLineByLine_compileLines hsplit).lines_eq]

/-- The two ways of compiling a text agree. If there is nothing to do on any of its lines, a
script is said to be empty, and a body comes to nothing. Otherwise it has a first line that is not
blank. If that line is a header, arguments are said to be missing exactly if there are fewer than
names, and the names are told in angle brackets; with enough arguments, the script comes to what
the body comes to that has an empty line there. If the line is no header, the script comes to what
it comes to as a body. -/
theorem compile_eq_compileBody (hsplit : Resolver.split scope.commands [] = [])
    (text : List Char) :
  (HasNoContent text →
    scope.compile (String.ofList text) = .error (.empty scope.name)
    ∧ scope.compileBody (String.ofList text) = .ok [])
  ∧ (¬ HasNoContent text →
    ∃ above line below content, FirstLine text above line below content)
  ∧ ∀ above line below content, FirstLine text above line below content →
    (∀ list, content = requireMark ++ list →
      let names := (requiredNames list).map String.ofList
      (∀ given, scope.compile (String.ofList text) = .error (.missingParameters given)
        ↔ given = names ∧ scope.params.length < names.length)
      ∧ (TimelineError.missingParameters names).message
        = "missing parameters: " ++ join " " (names.map fun n => "<" ++ n ++ ">")
      ∧ (¬ scope.params.length < names.length →
        scope.compile (String.ofList text) = scope.compileBody (String.ofList (above ++ below))))
    ∧ (¬ requireMark <+: content →
      scope.compile (String.ofList text) = scope.compileBody (String.ofList text))
  := by
  refine ⟨?_, exists_firstLine, ?_⟩
  · intro hnone
    rw [compile, compileBody, String.toList_ofList, ← List.append_nil (lines text),
      scope.compileScript_append_of_isBlank hnone,
      scope.compileLines_append_of_isBlank hsplit hnone]
    exact ⟨rfl, rfl⟩
  · intro above line below content hfirst
    obtain ⟨ps, qs, hblank, hpieces⟩ := hfirst.exists_pieces
    obtain ⟨q, hq, hread⟩ := hpieces line hfirst.newline_not_mem
    rw [hfirst.read_eq] at hread
    rw [scope.compile_ofList hsplit, hfirst.eq_append, hq,
      scope.compileScript_append_of_isBlank hblank]
    constructor
    · rintro list rfl names
      obtain ⟨e, he, hempty⟩ := hpieces [] List.not_mem_nil
      rw [List.append_nil] at he
      have hbody : scope.compileBody (String.ofList (above ++ below))
          = scope.compileLines (1 + ps.length + 1) qs := by
        have heblank : (Line.read e).isBlank = true := by
          rw [hempty]
          rfl
        rw [scope.compileBody_ofList hsplit, he,
          scope.compileLines_append_of_isBlank hsplit hblank, compileLines_cons,
          scope.compileLine_of_isBlank hsplit heblank, Compiled.nil_followedBy]
      have hlength : names.length = (requiredNames list).length := List.length_map _
      rw [scope.compileScript_of_header hread hfirst.not_isBlank, hbody, ← hlength]
      refine ⟨?_, rfl, fun henough => if_neg henough⟩
      intro given
      constructor
      · intro hgiven
        split at hgiven
        · rename_i hmissing
          obtain rfl := TimelineError.missingParameters.inj (Except.error.inj hgiven)
          exact ⟨rfl, hmissing⟩
        · exact absurd hgiven (scope.compileLines_ne_missing qs given _)
      · rintro ⟨rfl, hmissing⟩
        rw [if_pos hmissing]
    · intro hmark
      rw [scope.compileBody_ofList hsplit, hq, scope.compileLines_append_of_isBlank hsplit hblank,
        scope.compileScript_of_not_header hread hfirst.not_isBlank hmark]

/-- A header below a comment and an empty line, with and without the argument it requires. -/
theorem compile_eq_compileBody_greeting :
  let say : Command := { given := ["say"] }
  let scope (params : List String) : Scope :=
    { name := "show", params, commands := [say], specifiers := {} }
  let above := "// greeting\n\n".toList
  let line := "#req who, what // once".toList
  let below := "\nsay \x7b1\x7d \x7b0\x7d".toList
  let text := above ++ line ++ below
  (scope ["you", "hi"]).compile (String.ofList text)
      = (scope ["you", "hi"]).compileBody (String.ofList (above ++ below))
    ∧ (scope ["you", "hi"]).compileBody (String.ofList (above ++ below))
      = .ok [.invoke 4 "say" say "say hi you" false ["hi", "you"]]
    ∧ (scope ["you"]).compile (String.ofList text)
      = .error (.missingParameters ["who", "what"])
  := by
  intro say scope above line below text
  have hfirst : FirstLine text above line below (requireMark ++ "who, what".toList) :=
    { eq_append := rfl
      above_startsLine := by decide +kernel
      above_hasNoContent := by
        rw [HasNoContent]
        decide +kernel
      newline_not_mem := by decide +kernel
      below_endsLine := .inr (.inl ⟨_, rfl⟩)
      read_eq := by decide +kernel
      not_isBlank := by decide +kernel }
  have hnames : (requiredNames "who, what".toList).map String.ofList = ["who", "what"] := by
    decide +kernel
  have hheader := fun params =>
    (((scope params).compile_eq_compileBody rfl text).2.2 _ _ _ _ hfirst).1 _ rfl
  have hfew := (hheader ["you"]).1 ["who", "what"]
  have henough := (hheader ["you", "hi"]).2.2
  rw [hnames] at hfew henough
  exact ⟨henough (by decide), by decide +kernel, hfew.mpr ⟨rfl, by decide⟩⟩

end Scope

end CommandTimelines.Script
