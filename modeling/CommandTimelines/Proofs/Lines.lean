import CommandTimelines.Proofs.Rendering

/-!
# The lines of a text and what is read of them

A text is cut at its line feeds, and what follows the last one is a line only if something stands
there. Putting two texts together with a line feed between them puts their lines together
(`lines_append_newline`).

Of a line only what stands before its comment is read, without the blanks at its end: blanks
can be put at the end of a line, and a comment after them, without anything else being read
(`Line.read_append_trail`). The carriage return that may stand before a line feed is one of them
(`Line.read_dropReturn`).
-/

namespace CommandTimelines

namespace Text

/-! ### Pieces -/

/-- What has no separator in it lengthens the last piece of the text before it. -/
theorem exists_pieces_append (sep : Char) (s : List Char) :
  ∃ ps p, ∀ t, sep ∉ t → pieces sep (s ++ t) = ps ++ [p ++ t]
  := by
  by_cases hmem : sep ∈ s
  · obtain ⟨last, front, hreverse, hlast⟩ :=
      List.eq_append_cons_of_mem (List.mem_reverse.mpr hmem)
    have hs : s = front.reverse ++ sep :: last.reverse := by
      rw [← List.reverse_reverse s, hreverse]
      simp
    use pieces sep front.reverse, last.reverse
    intro t ht
    have hpiece : sep ∉ last.reverse ++ t := by simp [hlast, ht]
    rw [hs, List.append_assoc, List.cons_append, pieces_append_sep, pieces_of_not_mem hpiece]
  · use [], s
    intro t ht
    have hpiece : sep ∉ s ++ t := by simp [hmem, ht]
    rw [pieces_of_not_mem hpiece, List.nil_append]

theorem length_pieces (sep : Char) (s : List Char) :
  (pieces sep s).length = s.count sep + 1
  := by
  induction s with
  | nil => rfl
  | cons c s ih =>
    by_cases hc : c = sep
    · simp [pieces, hc, ih]
    · rcases hs : pieces sep s with _ | ⟨p, ps⟩
      · exact absurd hs (pieces_ne_nil sep s)
      · rw [pieces, if_neg hc, hs, List.count_cons_of_ne hc, ← ih, hs]
        rfl

/-- Whether all lines of a text have been ended, so that another line may begin. -/
def StartsLine (text : List Char) : Prop := text = [] ∨ text.getLast? = some '\n'

instance (text : List Char) : Decidable (StartsLine text) :=
  inferInstanceAs (Decidable (_ ∨ _))

/-- Nothing stands in the last piece exactly if all lines have been ended. -/
theorem eq_nil_iff_startsLine {s p : List Char} {ps : List (List Char)}
    (h : pieces '\n' s = ps ++ [p]) :
  p = [] ↔ StartsLine s
  := by
  rw [StartsLine]
  rcases List.eq_nil_or_concat s with rfl | ⟨front, c, rfl⟩
  · have hp : [] ++ [[]] = ps ++ [p] := h
    simpa using (List.append_inj' hp rfl).2.symm
  · obtain ⟨qs, q, hfront⟩ := exists_pieces_append '\n' front
    rw [List.concat_eq_append] at h ⊢
    by_cases hc : c = '\n'
    · rw [hc, pieces_append_sep] at h
      have hp : [] = p := by simpa [pieces] using (List.append_inj' h rfl).2
      simp [← hp, hc]
    · rw [hfront [c] (by simp [Ne.symm hc])] at h
      have hp : q ++ [c] = p := by simpa using (List.append_inj' h rfl).2
      rw [← hp]
      simp [hc]

/-! ### Lines -/

theorem linesOfPieces_append (ps : List (List Char)) {qs : List (List Char)} (hqs : qs ≠ []) :
  linesOfPieces (ps ++ qs) = ps.map dropReturn ++ linesOfPieces qs
  := by
  induction ps with
  | nil => rfl
  | cons p ps ih =>
    rcases hps : ps ++ qs with _ | ⟨q, rest⟩
    · exact absurd (List.append_eq_nil_iff.mp hps).2 hqs
    · rw [List.cons_append, hps, linesOfPieces, ← hps, ih]
      · rfl
      · simp

/-- A line feed ends all lines of the text before it. -/
theorem lines_append_newline (s t : List Char) :
  lines (s ++ '\n' :: t) = (pieces '\n' s).map dropReturn ++ lines t
  := by
  rw [lines, pieces_append_sep, linesOfPieces_append _ (pieces_ne_nil '\n' t), lines]

theorem lines_eq_of_pieces {s : List Char} {ps : List (List Char)} {p : List Char}
    (h : pieces '\n' s = ps ++ [p]) :
  lines s = ps.map dropReturn ++ if p = [] then [] else [p]
  := by
  rw [lines, h, linesOfPieces_append _ (List.cons_ne_nil p []), linesOfPieces]

end Text

namespace Script

open Text

/-! ### What is read of a line -/

/-- A text that is not read at the end of a line: blanks, and perhaps a comment after them. -/
def IsTrail (trail : List Char) : Prop :=
  ∃ blanks comment, trail = blanks ++ comment
    ∧ blanks ≠ [] ∧ (∀ c ∈ blanks, isBlank c = true)
    ∧ (comment = [] ∨ ∃ text, comment = '/' :: '/' :: text)

theorem isBlank_return :
  isBlank '\r' = true
  := by decide

theorem isTrail_return :
  IsTrail ['\r']
  := ⟨['\r'], [], rfl, List.cons_ne_nil _ _, List.forall_mem_singleton.mpr isBlank_return, .inl rfl⟩

/-- A carriage return at the end of what is not read is not read either. -/
theorem IsTrail.append_return {trail : List Char} (h : IsTrail trail) :
  IsTrail (trail ++ ['\r'])
  := by
  obtain ⟨blanks, comment, rfl, hne, hblank, rfl | ⟨text, rfl⟩⟩ := h
  · refine ⟨blanks ++ ['\r'], [], by simp, by simp, ?_, .inl rfl⟩
    intro c hc
    rcases List.mem_append.mp hc with hc | hc
    · exact hblank c hc
    · rw [List.mem_singleton.mp hc, isBlank_return]
  · exact ⟨blanks, '/' :: '/' :: (text ++ ['\r']), by simp, hne, hblank, .inr ⟨_, rfl⟩⟩

theorem IsTrail.head?_ne {trail : List Char} (h : IsTrail trail) :
  trail.head? ≠ some '/'
  := by
  obtain ⟨blanks, comment, rfl, hne, hblank, -⟩ := h
  obtain ⟨c, rest, rfl⟩ := List.exists_cons_of_ne_nil hne
  have hc := hblank c List.mem_cons_self
  rintro hslash
  obtain rfl : c = '/' := by simpa using hslash
  revert hc
  decide

/-- Blanks end no text before them. -/
theorem beforeComment_blanks {blanks : List Char} (h : ∀ c ∈ blanks, isBlank c = true)
    (rest : List Char) :
  beforeComment (blanks ++ rest) = blanks ++ beforeComment rest
  := by
  induction blanks with
  | nil => rfl
  | cons c blanks ih =>
    have hc : c ≠ '/' := by
      rintro rfl
      have hblank := h '/' List.mem_cons_self
      revert hblank
      decide
    have hrest := ih fun d hd => h d (List.mem_cons_of_mem c hd)
    rw [List.cons_append, beforeComment, hrest]
    · rfl
    · rintro r hslash -
      exact hc hslash

/-- What is not read adds nothing but blanks to the text before the comment. -/
theorem beforeComment_append_trail {trail : List Char} (h : IsTrail trail) (line : List Char) :
  ∃ blanks, (∀ c ∈ blanks, isBlank c = true)
    ∧ beforeComment (line ++ trail) = beforeComment line ++ blanks
  := by
  fun_induction beforeComment line with
  | case1 rest => exact ⟨[], by simp, rfl⟩
  | case2 c rest hno ih =>
    obtain ⟨blanks, hblank, hrest⟩ := ih
    refine ⟨blanks, hblank, ?_⟩
    rw [List.cons_append, beforeComment, hrest]
    · rfl
    · rintro r rfl hslash
      cases rest with
      | nil =>
        apply h.head?_ne
        rw [List.nil_append] at hslash
        rw [hslash]
        rfl
      | cons d rest =>
        obtain ⟨rfl, -⟩ := List.cons.inj hslash
        exact hno rest rfl rfl
  | case3 =>
    obtain ⟨blanks, comment, rfl, -, hblank, hcomment⟩ := h
    refine ⟨blanks, hblank, ?_⟩
    rw [List.nil_append, beforeComment_blanks hblank]
    obtain rfl | ⟨text, rfl⟩ := hcomment
    · simp [beforeComment]
    · simp [beforeComment]

/-- What a line that is no comment as a whole holds. -/
theorem Line.read_of_not_comment {line : List Char} (h : ∀ rest, line ≠ '/' :: '/' :: rest) :
  Line.read line = .text (trimEnd (beforeComment line))
  := by
  rw [Line.read.eq_def]
  split
  · rename_i rest
    exact absurd rfl (h rest)
  · rfl

/-- What stands at the end of a line without being read does not change what is read. -/
theorem Line.read_append_trail {trail : List Char} (h : IsTrail trail) (line : List Char) :
  Line.read (line ++ trail) = Line.read line
  := by
  by_cases hcomment : ∃ rest, line = '/' :: '/' :: rest
  · obtain ⟨rest, rfl⟩ := hcomment
    rfl
  · rw [not_exists] at hcomment
    have htrail : ∀ rest, line ++ trail ≠ '/' :: '/' :: rest := by
      intro rest hslash
      rcases line with _ | ⟨c, _ | ⟨d, line⟩⟩
      · apply h.head?_ne
        exact congrArg List.head? hslash
      · apply h.head?_ne
        obtain ⟨-, hslash⟩ := List.cons.inj hslash
        exact congrArg List.head? hslash
      · apply hcomment line
        simp_all
    obtain ⟨blanks, hblank, hbefore⟩ := beforeComment_append_trail h line
    rw [read_of_not_comment hcomment, read_of_not_comment htrail, hbefore,
      trimEnd_append_blanks _ _ hblank]

theorem Line.read_dropReturn (line : List Char) :
  Line.read (dropReturn line) = Line.read line
  := by
  rw [dropReturn]
  split
  · rename_i hlast
    have hline : line = line.dropLast ++ ['\r'] :=
      (List.dropLast_append_getLast? '\r' hlast).symm
    rw [hline, List.dropLast_concat, read_append_trail isTrail_return]
  · rfl

end Script

end CommandTimelines
