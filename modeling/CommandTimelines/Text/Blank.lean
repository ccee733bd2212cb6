import CommandTimelines.Text.CodeRange

/-!
# Blanks and trimming

A blank is a character of the Unicode property White_Space: twenty-five characters in ten
ranges. `trimEnd` and `trim` remove blanks from the end, or from both ends, of a text.
-/

namespace CommandTimelines.Text

/-- The code points of the Unicode property White_Space. -/
def blankRanges : List CodeRange :=
  [(0x09, 0x0D), (0x20, 0x20), (0x85, 0x85), (0xA0, 0xA0), (0x1680, 0x1680),
    (0x2000, 0x200A), (0x2028, 0x2029), (0x202F, 0x202F), (0x205F, 0x205F),
    (0x3000, 0x3000)]

/-- Whether a character separates words. -/
def isBlank (c : Char) : Bool := CodeRange.cover blankRanges c

/-- A text without the blanks it starts with. -/
def trimStart (s : List Char) : List Char := s.dropWhile isBlank

/-- A text without the blanks it ends with. -/
def trimEnd (s : List Char) : List Char := (s.reverse.dropWhile isBlank).reverse

/-- A text without the blanks at either end. -/
def trim (s : List Char) : List Char := trimEnd (trimStart s)

@[simp]
theorem trimEnd_nil :
  trimEnd [] = []
  := rfl

/-- Appending blanks does not change what trimming leaves. -/
theorem trimEnd_append_blanks (s b : List Char) (h : ∀ c ∈ b, isBlank c = true) :
  trimEnd (s ++ b) = trimEnd s
  := by
  have dropped : ∀ c ∈ b.reverse, isBlank c = true := by
    intro c hc
    exact h c (List.mem_reverse.mp hc)
  rw [trimEnd, List.reverse_append, List.dropWhile_append_of_pos dropped, trimEnd]

/-- A text that ends in a character that is not blank is left alone. -/
theorem trimEnd_concat_of_not_blank (s : List Char) (c : Char) (h : isBlank c = false) :
  trimEnd (s ++ [c]) = s ++ [c]
  := by
  simp [trimEnd, h]

/-- Nothing is left of a text of blanks. -/
theorem trimEnd_eq_nil {s : List Char} (h : ∀ c ∈ s, isBlank c = true) :
  trimEnd s = []
  := by
  have htrim := trimEnd_append_blanks [] s h
  rwa [List.nil_append] at htrim

/-- Trimming the start takes blanks off it. -/
theorem exists_blanks_trimStart (s : List Char) :
  ∃ blanks, s = blanks ++ trimStart s ∧ ∀ c ∈ blanks, isBlank c = true
  := by
  refine ⟨s.takeWhile isBlank, List.takeWhile_append_dropWhile.symm, ?_⟩
  exact List.all_eq_true.mp List.all_takeWhile

/-- Trimming the end takes blanks off it. -/
theorem exists_blanks_trimEnd (s : List Char) :
  ∃ blanks, s = trimEnd s ++ blanks ∧ ∀ c ∈ blanks, isBlank c = true
  := by
  obtain ⟨blanks, hs, hblank⟩ := exists_blanks_trimStart s.reverse
  refine ⟨blanks.reverse, ?_, ?_⟩
  · rw [trimEnd, ← List.reverse_append, ← trimStart, ← hs, List.reverse_reverse]
  · intro c hc
    exact hblank c (List.mem_reverse.mp hc)

theorem isBlank_of_head?_trimStart {s : List Char} {c : Char} (h : (trimStart s).head? = some c) :
  isBlank c = false
  := by
  have hhead := List.head?_dropWhile_not isBlank s
  rw [← trimStart, h] at hhead
  exact hhead

theorem isBlank_of_getLast?_trimEnd {s : List Char} {c : Char}
    (h : (trimEnd s).getLast? = some c) :
  isBlank c = false
  := by
  rw [trimEnd, List.getLast?_reverse] at h
  exact isBlank_of_head?_trimStart h

/-- A text that does not end in a blank is left alone. -/
theorem trimEnd_eq_self {s : List Char} (h : ∀ c, s.getLast? = some c → isBlank c = false) :
  trimEnd s = s
  := by
  rcases List.eq_nil_or_concat s with rfl | ⟨front, c, rfl⟩
  · rfl
  · rw [List.concat_eq_append] at h ⊢
    exact trimEnd_concat_of_not_blank front c (h c List.getLast?_concat)

theorem trimEnd_trimEnd (s : List Char) :
  trimEnd (trimEnd s) = trimEnd s
  := trimEnd_eq_self fun _ => isBlank_of_getLast?_trimEnd

/-- What stands before a character that is not blank is no part of the blanks at the end. -/
theorem trimEnd_append_of_not_blank {c : Char} {s : List Char} (hc : c ∈ s)
    (hblank : isBlank c = false) (front : List Char) :
  trimEnd (front ++ s) = front ++ trimEnd s
  := by
  obtain ⟨blanks, hs, hblanks⟩ := exists_blanks_trimEnd s
  have hmem : c ∈ trimEnd s := by
    rw [hs] at hc
    rcases List.mem_append.mp hc with hc | hc
    · exact hc
    · rw [hblanks c hc] at hblank
      cases hblank
  have hself : trimEnd (front ++ trimEnd s) = front ++ trimEnd s := by
    apply trimEnd_eq_self
    intro d hd
    rw [List.getLast?_append] at hd
    cases hlast : (trimEnd s).getLast? with
    | none =>
      rw [List.getLast?_eq_none_iff.mp hlast] at hmem
      cases hmem
    | some e =>
      rw [hlast] at hd
      obtain rfl := Option.some.inj hd
      exact isBlank_of_getLast?_trimEnd hlast
  calc
    trimEnd (front ++ s) = trimEnd (front ++ trimEnd s ++ blanks) := by
      rw [List.append_assoc, ← hs]
    _ = front ++ trimEnd s := by rw [trimEnd_append_blanks _ _ hblanks, hself]

/-- What is left of a text is what stands between the blanks at its ends. -/
theorem trim_eq_iff {s core : List Char} :
  trim s = core ↔ ∃ before after, s = before ++ core ++ after
    ∧ (∀ c ∈ before, isBlank c = true) ∧ (∀ c ∈ after, isBlank c = true)
    ∧ (∀ c, core.head? = some c → isBlank c = false)
    ∧ (∀ c, core.getLast? = some c → isBlank c = false)
  := by
  constructor
  · rintro rfl
    obtain ⟨before, hbefore, hblank⟩ := exists_blanks_trimStart s
    obtain ⟨after, hafter, hblank'⟩ := exists_blanks_trimEnd (trimStart s)
    refine ⟨before, after, ?_, hblank, hblank', ?_, fun c => isBlank_of_getLast?_trimEnd⟩
    · rw [trim, List.append_assoc, ← hafter]
      exact hbefore
    · intro c hc
      apply isBlank_of_head?_trimStart (s := s)
      rw [hafter, List.head?_append, ← trim, hc]
      rfl
  · rintro ⟨before, after, rfl, hbefore, hafter, hhead, hlast⟩
    rw [trim, trimStart, List.append_assoc, List.dropWhile_append_of_pos hbefore]
    cases core with
    | nil =>
      rw [List.nil_append, ← List.append_nil after, List.dropWhile_append_of_pos hafter]
      rfl
    | cons c core =>
      have hc : isBlank c = false := hhead c rfl
      rw [List.cons_append, List.dropWhile_cons_of_neg (by simp [hc]), ← List.cons_append,
        trimEnd_append_blanks _ _ hafter, trimEnd_eq_self hlast]

/-- Blanks around a text in which there are none are all that is trimmed. -/
theorem trim_append_of_not_blank {before core after : List Char}
    (hbefore : ∀ c ∈ before, isBlank c = true) (hcore : ∀ c ∈ core, isBlank c = false)
    (hafter : ∀ c ∈ after, isBlank c = true) :
  trim (before ++ core ++ after) = core
  := by
  apply trim_eq_iff.mpr
  refine ⟨before, after, rfl, hbefore, hafter, ?_, ?_⟩
  · intro c hc
    exact hcore c (List.mem_of_head? hc)
  · intro c hc
    exact hcore c (List.mem_of_getLast? hc)

end CommandTimelines.Text
