import CommandTimelines.Proofs.Lines

/-!
# Lines without their comments

A line is cut where its first comment starts: what stands at its beginning holds a comment mark
exactly if it reaches past the first one (`infix_iff_of_isPrefix`), and half of that mark exactly if it
reaches into it (`halvesMark_iff`). What is read of a line is the longest text at its beginning that
does neither and ends in no blank, and there is just one such text (`IsContent`). It is read as it
is (`Line.read_keeps`).
-/

namespace CommandTimelines.Script

open Text

/-- What starts a comment. -/
def commentMark : List Char := ['/', '/']

/-- Whether a text at the beginning of a line ends with the first slash of the first comment
mark. -/
def HalvesMark (line text : List Char) : Prop :=
  ∃ front, text = front ++ ['/'] ∧ front ++ commentMark <+: line ∧ ¬ commentMark <:+: text

/-- `IsContent line text`: the text is the longest one at the beginning of the line that is clean of
comments and ends in no blank. -/
structure IsContent (line text : List Char) : Prop where
  isPrefix : text <+: line
  not_infix : ¬ commentMark <:+: text
  not_halvesMark : ¬ HalvesMark line text
  not_isBlank : ∀ c ∈ text.getLast?, isBlank c = false
  /-- What is longer holds a comment mark or the first half of one, unless it ends in a blank. -/
  longest : ∀ other, other <+: line → text.length < other.length →
    (∀ c ∈ other.getLast?, isBlank c = false) → commentMark <:+: other ∨ HalvesMark line other

/-! ### Where a comment starts -/

/-- What stands at the beginning of a line holds a comment mark exactly if it reaches past the
first one. -/
theorem infix_iff_of_isPrefix {text line : List Char} (h : text <+: line) :
  commentMark <:+: text ↔ (beforeComment line).length + 2 ≤ text.length
  := by
  fun_induction beforeComment line generalizing text with
  | case1 rest =>
    constructor
    · intro hmark
      exact hmark.length_le
    · intro hlength
      have hline : commentMark <+: '/' :: '/' :: rest := ⟨rest, rfl⟩
      exact (List.prefix_of_prefix_length_le hline h hlength).isInfix
  | case2 c rest hno ih =>
    cases text with
    | nil => simp [commentMark]
    | cons d text =>
      obtain ⟨rfl, htext⟩ := List.cons_prefix_cons.mp h
      have hfirst : ¬ commentMark <+: d :: text := by
        intro hmark
        obtain ⟨later, hlater⟩ := hmark.trans h
        obtain ⟨rfl, hrest⟩ := List.cons.inj hlater
        exact hno later rfl hrest.symm
      rw [List.infix_cons_iff, ih htext, List.length_cons, List.length_cons]
      simp only [hfirst, false_or]
      omega
  | case3 =>
    obtain rfl := List.prefix_nil.mp h
    simp [commentMark]

/-- A line has no comment, or one that starts right after the text before it. -/
theorem beforeComment_cases (line : List Char) :
  beforeComment line = line ∨ beforeComment line ++ commentMark <+: line
  := by
  fun_induction beforeComment line with
  | case1 rest =>
    right
    exact ⟨rest, rfl⟩
  | case2 c rest hno ih =>
    rcases ih with ih | ih
    · left
      rw [ih]
    · right
      exact List.cons_prefix_cons.mpr ⟨rfl, ih⟩
  | case3 =>
    left
    rfl

theorem beforeComment_isPrefix (line : List Char) :
  beforeComment line <+: line
  := by
  rcases beforeComment_cases line with h | h
  · rw [h]
  · exact (List.prefix_append _ _).trans h

/-- What stands at the beginning of a line ends with half of the first comment mark exactly if it
reaches into it. -/
theorem halvesMark_iff {text line : List Char} (h : text <+: line) :
  HalvesMark line text ↔ text.length = (beforeComment line).length + 1
  := by
  constructor
  · rintro ⟨front, rfl, hmark, hno⟩
    rw [infix_iff_of_isPrefix h, List.length_append, List.length_singleton] at hno
    have hreach := (infix_iff_of_isPrefix hmark).mp (List.suffix_append front _).isInfix
    rw [List.length_append, commentMark, List.length_cons, List.length_singleton] at hreach
    rw [List.length_append, List.length_singleton]
    omega
  · intro hlength
    have hno : ¬ commentMark <:+: text := by
      rw [infix_iff_of_isPrefix h]
      omega
    rcases beforeComment_cases line with hline | hline
    · rw [hline] at hlength
      have hle := h.length_le
      omega
    · have hhalf : beforeComment line ++ ['/'] <+: line :=
        List.IsPrefix.trans ⟨['/'], by simp [commentMark]⟩ hline
      have htext : text = beforeComment line ++ ['/'] := by
        apply (List.prefix_of_prefix_length_le h hhalf _).eq_of_length
        · rw [hlength, List.length_append, List.length_singleton]
        · rw [hlength, List.length_append, List.length_singleton]
      exact ⟨beforeComment line, htext, hline, hno⟩

/-! ### Blanks at the end -/

/-- What goes on after a trimmed text, and still ends before its blanks do, ends in a blank. -/
theorem isBlank_of_isPrefix {text other : List Char} (h : other <+: text)
    (hlength : (trimEnd text).length < other.length) :
  ∃ c ∈ other.getLast?, isBlank c = true
  := by
  obtain ⟨blanks, htext, hblank⟩ := exists_blanks_trimEnd text
  have htrim : trimEnd text <+: text := ⟨blanks, htext.symm⟩
  obtain ⟨more, rfl⟩ := List.prefix_of_prefix_length_le htrim h hlength.le
  have hne : more ≠ [] := by
    rintro rfl
    rw [List.append_nil] at hlength
    exact Nat.lt_irrefl _ hlength
  have hmore : more <+: blanks := by
    obtain ⟨rest, hrest⟩ := h
    use rest
    rw [List.append_assoc] at hrest
    exact List.append_cancel_left (hrest.trans htext)
  refine ⟨more.getLast hne, ?_, hblank _ (hmore.subset (List.getLast_mem hne))⟩
  rw [List.getLast?_append_of_ne_nil _ hne, List.getLast?_eq_some_getLast hne]
  rfl

/-! ### What is read of a line -/

/-- What is left of a line before its comment, without the blanks at the end, is its content. -/
theorem isContent_trimEnd (line : List Char) :
  IsContent line (trimEnd (beforeComment line))
  := by
  obtain ⟨blanks, hbefore, -⟩ := exists_blanks_trimEnd (beforeComment line)
  have htrim : trimEnd (beforeComment line) <+: beforeComment line := ⟨blanks, hbefore.symm⟩
  have hprefix := htrim.trans (beforeComment_isPrefix line)
  have hlength := htrim.length_le
  constructor
  · exact hprefix
  · rw [infix_iff_of_isPrefix hprefix]
    omega
  · rw [halvesMark_iff hprefix]
    omega
  · intro c hc
    exact isBlank_of_getLast?_trimEnd hc
  · intro other hother hlonger hlast
    rw [infix_iff_of_isPrefix hother, halvesMark_iff hother]
    by_contra hshort
    have hle : other.length ≤ (beforeComment line).length := by omega
    obtain ⟨c, hc, hblank⟩ := isBlank_of_isPrefix
      (List.prefix_of_prefix_length_le hother (beforeComment_isPrefix line) hle) hlonger
    rw [hlast c hc] at hblank
    cases hblank

namespace IsContent

variable {line text other : List Char}

theorem length_le (h : IsContent line text) (hother : IsContent line other) :
  other.length ≤ text.length
  := by
  by_contra hlonger
  rcases h.longest other hother.isPrefix (Nat.lt_of_not_le hlonger) hother.not_isBlank with
    hmark | hhalf
  · exact hother.not_infix hmark
  · exact hother.not_halvesMark hhalf

/-- A line has one content only. -/
theorem unique (h : IsContent line text) (hother : IsContent line other) :
  other = text
  := by
  have hle := h.length_le hother
  have hprefix := List.prefix_of_prefix_length_le hother.isPrefix h.isPrefix hle
  exact hprefix.eq_of_length (Nat.le_antisymm hle (hother.length_le h))

/-- The content of a line is its own content. -/
theorem self (h : IsContent line text) :
  IsContent text text
  := by
  constructor
  · exact List.prefix_rfl
  · exact h.not_infix
  · rintro ⟨front, rfl, hmark, -⟩
    have hle := hmark.length_le
    rw [List.length_append, List.length_append] at hle
    exact absurd hle (by simp [commentMark])
  · exact h.not_isBlank
  · intro other hother hlonger
    exact absurd hother.length_le (Nat.not_le_of_lt hlonger)

theorem read_eq (h : IsContent line text) (hline : ¬ commentMark <+: line) :
  Line.read line = .text text
  := by
  rw [Line.read_of_not_comment]
  · rw [h.unique (isContent_trimEnd line)]
  · rintro rest rfl
    exact hline ⟨rest, rfl⟩

end IsContent

/-- A line is a comment as a whole exactly if it starts with a comment mark. Any other line is read
as its content, which is read as it is. -/
theorem Line.read_keeps (line : List Char) :
  (Line.read line = .comment ↔ commentMark <+: line) ∧
  (¬ commentMark <+: line →
    ∃ text, Line.read line = .text text ∧ IsContent line text ∧
      (∀ other, IsContent line other → other = text) ∧ Line.read text = .text text)
  := by
  have hcontent := isContent_trimEnd line
  constructor
  · constructor
    · intro hread
      by_contra hline
      rw [hcontent.read_eq hline] at hread
      cases hread
    · rintro ⟨rest, rfl⟩
      rfl
  · intro hline
    have hagain : ¬ commentMark <+: trimEnd (beforeComment line) :=
      fun hmark => hcontent.not_infix hmark.isInfix
    exact ⟨_, hcontent.read_eq hline, hcontent, fun other => hcontent.unique,
      hcontent.self.read_eq hagain⟩

/-- A slash of the command's own, a wide space and a tab, and a comment that starts with three
slashes. -/
theorem Line.read_keeps_say :
  let line := "say /\u3000\t/// now".toList
  ¬ commentMark <+: line ∧ Line.read line = .text "say /".toList ∧
  IsContent line "say /".toList ∧ Line.read "say /".toList = .text "say /".toList
  := by
  intro line
  have hline : ¬ commentMark <+: line := by decide
  have hread : Line.read line = .text "say /".toList := by decide +kernel
  obtain ⟨text, htext, hcontent, -, hagain⟩ := (Line.read_keeps line).2 hline
  obtain rfl := Line.text.inj (hread.symm.trans htext)
  exact ⟨hline, hread, hcontent, hagain⟩

end CommandTimelines.Script
