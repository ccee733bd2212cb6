import CommandTimelines.Proofs.Header

/-!
# What lines mean

What a line means is decided by how it begins. After the mark of a wait it tells of an interval, if
what follows is one (`Interval`), and that is so exactly if what is left of it without the blanks
around is a number that fits 64 bits (`word?_trim_eq_some_iff`). After the mark of a header it lists
names. Any other line is a command line, from which one specifier is taken at most (`Unmarked`). All
this is put together in `Directive.read_classifies`, for whatever specifiers there are and however
command lines are cut into words.
-/

namespace CommandTimelines

namespace Text

/-! ### Numbers -/

/-- The number that digits denote is the one they denote in base ten, the last digit being the
lowest. -/
theorem valueOfDigits_eq_ofDigits (digits : List Char) :
  valueOfDigits digits = Nat.ofDigits 10 (digits.reverse.map digitValue)
  := by
  rw [Nat.ofDigits_eq_foldr, List.foldr_map, List.foldr_reverse, valueOfDigits]
  congr 1
  funext n c
  exact Nat.add_comm _ _

theorem unsignedWord?_eq_some_iff_ofDigits {s : List Char} {n : Nat} :
  unsignedWord? s = some n ↔ s ≠ [] ∧ (∀ c ∈ s, c.isDigit)
    ∧ Nat.ofDigits 10 (s.reverse.map digitValue) = n ∧ n < 2 ^ 64
  := by
  have hlimit : wordLimit = 2 ^ 64 := by norm_num [wordLimit]
  rw [unsignedWord?_eq_some_iff, decimal?, hlimit, ← valueOfDigits_eq_ofDigits]
  simp [and_assoc]

/-- A number may have a plus sign, leading zeros, and as many digits as one likes. -/
theorem word?_eq_some_iff {s : List Char} {n : Nat} :
  word? s = some n ↔ ∃ sign digits, s = sign ++ digits ∧ (sign = [] ∨ sign = ['+'])
    ∧ digits ≠ [] ∧ (∀ c ∈ digits, c.isDigit)
    ∧ Nat.ofDigits 10 (digits.reverse.map digitValue) = n ∧ n < 2 ^ 64
  := by
  constructor
  · intro h
    unfold word? at h
    split at h
    · exact ⟨['+'], _, rfl, .inr rfl, unsignedWord?_eq_some_iff_ofDigits.mp h⟩
    · exact ⟨[], s, rfl, .inl rfl, unsignedWord?_eq_some_iff_ofDigits.mp h⟩
  · rintro ⟨sign, digits, rfl, rfl | rfl, hdigits⟩
    · rw [List.nil_append, word?]
      · exact unsignedWord?_eq_some_iff_ofDigits.mpr hdigits
      · rintro rest rfl
        exact absurd (hdigits.2.1 '+' List.mem_cons_self) (by decide)
    · exact unsignedWord?_eq_some_iff_ofDigits.mpr hdigits

end Text

namespace Script

open Text

/-! ### Intervals -/

/-- `Interval n text`: the text is the number `n` in decimal digits, maybe after a plus sign, and it
fits 64 bits. Blanks may stand on both sides. -/
inductive Interval (n : Nat) : List Char → Prop
  | intro {before sign digits after : List Char} (hbefore : ∀ c ∈ before, isBlank c = true)
      (hsign : sign = [] ∨ sign = ['+']) (hne : digits ≠ []) (hdigits : ∀ c ∈ digits, c.isDigit)
      (hvalue : Nat.ofDigits 10 (digits.reverse.map digitValue) = n) (hlimit : n < 2 ^ 64)
      (hafter : ∀ c ∈ after, isBlank c = true) :
      Interval n (before ++ (sign ++ digits) ++ after)

/-- An interval is what is read as a number without the blanks around it. -/
theorem word?_trim_eq_some_iff {text : List Char} {n : Nat} :
  word? (trim text) = some n ↔ Interval n text
  := by
  constructor
  · intro h
    obtain ⟨before, after, htext, hbefore, hafter, -, -⟩ := trim_eq_iff.mp (Eq.refl (trim text))
    obtain ⟨sign, digits, hcore, hsign, hne, hdigits, hvalue, hlimit⟩ := word?_eq_some_iff.mp h
    rw [htext, hcore]
    exact .intro hbefore hsign hne hdigits hvalue hlimit hafter
  · rintro ⟨hbefore, hsign, hne, hdigits, hvalue, hlimit, hafter⟩
    rename_i before sign digits after
    have hcore : trim (before ++ (sign ++ digits) ++ after) = sign ++ digits := by
      apply trim_append_of_not_blank hbefore _ hafter
      intro c hc
      rcases List.mem_append.mp hc with hc | hc
      · rcases hsign with rfl | rfl
        · cases hc
        · rw [List.mem_singleton.mp hc]
          decide
      · exact isBlank_of_isDigit (hdigits c hc)
    rw [hcore]
    exact word?_eq_some_iff.mpr ⟨sign, digits, rfl, hsign, hne, hdigits, hvalue, hlimit⟩

/-! ### Specifiers -/

/-- Whether a line starts with a specifier that is not empty. -/
def HasMark (mark : String) (line : List Char) : Prop := mark ≠ "" ∧ mark.toList <+: line

/-- `Unmarked specifiers line silent text`: the text is the line without the specifier that it starts
with, the silent one before the other, and `silent` says whether it is that one. -/
inductive Unmarked (specifiers : Specifiers) (line : List Char) : Bool → List Char → Prop
  | silent {text : List Char} (hmark : specifiers.silent ≠ "")
      (hline : line = specifiers.silent.toList ++ text) : Unmarked specifiers line true text
  | normal {text : List Char} (hsilent : ¬ HasMark specifiers.silent line)
      (hmark : specifiers.normal ≠ "") (hline : line = specifiers.normal.toList ++ text) :
      Unmarked specifiers line false text
  | plain (hsilent : ¬ HasMark specifiers.silent line)
      (hnormal : ¬ HasMark specifiers.normal line) : Unmarked specifiers line false line

theorem dropMark?_eq_some_iff {mark : String} {line text : List Char} :
  dropMark? mark line = some text ↔ mark ≠ "" ∧ line = mark.toList ++ text
  := by
  have hempty : mark.toList = [] ↔ mark = "" := String.toList_eq_nil_iff
  rw [dropMark?]
  split
  · rename_i hmark
    simp [hempty.mp hmark]
  · rename_i hmark
    have hne : mark ≠ "" := mt hempty.mpr hmark
    rw [List.isPrefixOf?_eq_some_iff_append_eq, eq_comm]
    simp [hne]

theorem dropMark?_eq_none_iff {mark : String} {line : List Char} :
  dropMark? mark line = none ↔ ¬ HasMark mark line
  := by
  rw [Option.eq_none_iff_forall_ne_some, HasMark]
  constructor
  · rintro h ⟨hmark, text, hline⟩
    exact h text (dropMark?_eq_some_iff.mpr ⟨hmark, hline.symm⟩)
  · intro h text htext
    obtain ⟨hmark, hline⟩ := dropMark?_eq_some_iff.mp htext
    exact h ⟨hmark, text, hline.symm⟩

/-- One specifier is taken from a line at most. -/
theorem unmark_eq_iff {specifiers : Specifiers} {line text : List Char} {silent : Bool} :
  unmark specifiers line = (silent, text) ↔ Unmarked specifiers line silent text
  := by
  constructor
  · intro h
    unfold unmark at h
    split at h
    · rename_i rest hsilent
      obtain ⟨hmark, hline⟩ := dropMark?_eq_some_iff.mp hsilent
      cases h
      exact .silent hmark hline
    · rename_i hsilent
      have hnone := dropMark?_eq_none_iff.mp hsilent
      split at h
      · rename_i rest hnormal
        obtain ⟨hmark, hline⟩ := dropMark?_eq_some_iff.mp hnormal
        cases h
        exact .normal hnone hmark hline
      · rename_i hnormal
        cases h
        exact .plain hnone (dropMark?_eq_none_iff.mp hnormal)
  · intro h
    cases h with
    | silent hmark hline => rw [unmark, dropMark?_eq_some_iff.mpr ⟨hmark, hline⟩]
    | normal hsilent hmark hline =>
      rw [unmark, dropMark?_eq_none_iff.mpr hsilent, dropMark?_eq_some_iff.mpr ⟨hmark, hline⟩]
    | plain hsilent hnormal =>
      rw [unmark, dropMark?_eq_none_iff.mpr hsilent, dropMark?_eq_none_iff.mpr hnormal]

theorem exists_unmarked (specifiers : Specifiers) (line : List Char) :
  ∃ silent text, Unmarked specifiers line silent text
  := ⟨_, _, unmark_eq_iff.mp rfl⟩

/-! ### Lines -/

namespace Directive

variable (specifiers : Specifiers) (split : List Char → List (List Char))

theorem ofCommandLine_of_unmarked {line text : List Char} {silent : Bool}
    (h : Unmarked specifiers line silent text) :
  ofCommandLine specifiers line split
    = match split text with
      | [] => .comment
      | name :: args =>
        .command
          { silent
            text := String.ofList text
            name := lower (String.ofList name)
            args := args.map String.ofList }
  := by
  cases hsplit : split text with
  | nil => simp only [ofCommandLine, unmark_eq_iff.mpr h, hsplit]
  | cons name args => simp only [ofCommandLine, unmark_eq_iff.mpr h, hsplit]

/-- A line with the mark of a wait is a wait of so many milliseconds if an interval follows, and the
complaint that quotes all that follows if none does. A line with the mark of a header lists at least
one name, and the names with a comma and a space between them are what follows. From any other line
one specifier is taken at most; if it has no words then it means nothing, and otherwise it is the
command that its words tell. -/
theorem read_classifies :
  (∀ rest n, read specifiers (waitMark ++ rest) split = .ok (.wait n) ↔ Interval n rest) ∧
  (∀ rest, read specifiers (waitMark ++ rest) split = .error ⟨String.ofList rest⟩
    ↔ ∀ n, ¬ Interval n rest) ∧
  (∀ rest, ∃ names, read specifiers (requireMark ++ rest) split
      = .ok (.require (names.map String.ofList)) ∧
    names ≠ [] ∧ nameSeparator.intercalate names = rest ∧
    ∀ name ∈ names, ¬ nameSeparator <:+: name) ∧
  ∀ line, ¬ waitMark <+: line → ¬ requireMark <+: line →
    ∃ silent text, Unmarked specifiers line silent text ∧
      (read specifiers line split = .ok .comment ↔ split text = []) ∧
      ∀ name args, split text = name :: args →
        read specifiers line split = .ok (.command
          { silent
            text := String.ofList text
            name := lower (String.ofList name)
            args := args.map String.ofList })
  := by
  refine ⟨?_, ?_, ?_, ?_⟩
  · intro rest n
    rw [read_waitMark, ← word?_trim_eq_some_iff]
    cases word? (trim rest) <;> simp
  · intro rest
    rw [read_waitMark]
    simp only [← word?_trim_eq_some_iff]
    cases word? (trim rest) <;> simp
  · intro rest
    use requiredNames rest, read_requireMark specifiers split rest
    exact (requiredNames_eq_iff rest _).mp rfl
  · intro line hwait hrequire
    obtain ⟨silent, text, hunmarked⟩ := exists_unmarked specifiers line
    refine ⟨silent, text, hunmarked, ?_, ?_⟩
    · rw [read_of_not_mark specifiers split hwait hrequire,
        ofCommandLine_of_unmarked specifiers split hunmarked]
      cases split text <;> simp
    · intro name args hsplit
      rw [read_of_not_mark specifiers split hwait hrequire,
        ofCommandLine_of_unmarked specifiers split hunmarked, hsplit]

/-- A number with a plus sign and leading zeros between a wide space and a tab, the first number that
does not fit, and a specifier that is the beginning of a mark. -/
theorem read_classifies_plus :
  let specifiers : Specifiers := { normal := "#wait", silent := "" }
  let limit := "18446744073709551616"
  read specifiers (waitMark ++ ['\u3000', '+', '0', '0', '7', '\t']) = .ok (.wait 7) ∧
  read specifiers (waitMark ++ limit.toList) = .error ⟨limit⟩ ∧
  read specifiers ['#', 'w', 'a', 'i', 't'] = .ok .comment
  := by
  intro specifiers limit
  obtain ⟨hwait, hinvalid, -, hcommand⟩ := read_classifies specifiers Words.split
  refine ⟨?_, ?_, ?_⟩
  · have hspace : ['\u3000'].all isBlank := by decide
    have htab : ['\t'].all isBlank := by decide
    have hdigits : ['0', '0', '7'].all Char.isDigit := by decide
    have hvalue : Nat.ofDigits 10 (['0', '0', '7'].reverse.map digitValue) = 7 := by decide
    apply (hwait _ 7).mpr
    exact .intro (List.all_eq_true.mp hspace) (.inr rfl) (List.cons_ne_nil _ _)
      (List.all_eq_true.mp hdigits) hvalue (by norm_num) (List.all_eq_true.mp htab)
  · apply ((hinvalid limit.toList).mpr _).trans
    · rw [String.ofList_toList]
    · intro n hn
      have hread := word?_trim_eq_some_iff.mpr hn
      have hnone : word? (trim limit.toList) = none := by decide +kernel
      rw [hnone] at hread
      cases hread
  · obtain ⟨silent, text, hunmarked, hcomment, -⟩ := hcommand ['#', 'w', 'a', 'i', 't']
      (by decide) (by decide)
    have htext : unmark specifiers ['#', 'w', 'a', 'i', 't'] = (false, []) := by decide +kernel
    obtain ⟨-, rfl⟩ := Prod.mk.inj (htext.symm.trans (unmark_eq_iff.mpr hunmarked))
    exact hcomment.mpr rfl

end Directive

end Script

end CommandTimelines
