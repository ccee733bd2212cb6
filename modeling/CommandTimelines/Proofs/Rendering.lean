import CommandTimelines.Script.Compile
import Mathlib

/-!
# Writing scripts

An `Item` is a wait or a command line, and `render` writes a list of items as a script: one
line for each, every word between quotes, and every brace twice if the script is to be run with
arguments. Compiling such a script gives back the actions of the items, line by line, whatever
stands in the words (`Scope.compile_render`).

The stages of compiling are taken one by one, each on what the earlier ones leave of a text:
lines are told apart (`lines_intercalate`), no comment begins in a line (`beforeComment_eq`),
doubled braces become single ones (`bindChars_doubled`), and quoted words are read as they are
(`Words.split_phrase`).
-/

namespace CommandTimelines.Script

open Host Text

/-! ### Scripts as they are written -/

/-- A line of a script that has something to do. -/
inductive Item where
  | wait (milliseconds : Nat)
  | command (silent : Bool) (name : String) (args : List String)
deriving DecidableEq, Repr

/-- Words between quotes, with a space between two of them. -/
def Words.phrase (words : List String) : List Char :=
  [' '].intercalate (words.map fun word => quoted word.toList)

/-- The line of an item. -/
def Item.line : Item → List Char
  | .wait milliseconds => waitMark ++ (toString milliseconds).toList
  | .command silent name args => (if silent then '.' else '/') :: Words.phrase (name :: args)

/-- A character twice if it is a brace. -/
def doubledChar (c : Char) : List Char := if c = '{' ∨ c = '}' then [c, c] else [c]

/-- A text with every brace doubled. -/
def doubled (text : List Char) : List Char := text.flatMap doubledChar

/-- A text as it is written for a run with the given arguments: braces mean something only if
there are any. -/
def written (params : List String) (text : List Char) : List Char :=
  if params = [] then text else doubled text

/-- The script of items, to be run with the given arguments. -/
def render (params : List String) (items : List Item) : String :=
  String.ofList (written params (['\n'].intercalate (items.map (·.line))))

/-! ### What items come to -/

/-- A text that may stand in a line: it has no line feed, and no two slashes next to each
other. -/
structure IsPlain (text : List Char) : Prop where
  newline_not_mem : '\n' ∉ text
  not_infix : ¬ ['/', '/'] <:+: text

/-- An item that can be written down and run: a wait that fits a word, or a command whose name
and arguments may stand in a line, and which the console may run wherever it is known. -/
def Item.IsWritable (commands : List Command) : Item → Prop
  | .wait milliseconds => milliseconds < wordLimit
  | .command _ name args =>
    (∀ word ∈ name :: args, IsPlain word.toList) ∧
    ∀ c ∈ Command.allNamed commands (lower name), c.allowsConsole

instance (text : List Char) : Decidable (IsPlain text) :=
  decidable_of_iff ('\n' ∉ text ∧ ¬ ['/', '/'] <:+: text)
    ⟨fun h => ⟨h.1, h.2⟩, fun h => ⟨h.newline_not_mem, h.not_infix⟩⟩

instance (commands : List Command) : (item : Item) → Decidable (item.IsWritable commands)
  | .wait milliseconds => inferInstanceAs (Decidable (milliseconds < wordLimit))
  | .command _ _ _ => inferInstanceAs (Decidable (_ ∧ _))

/-- The actions of an item on a line. -/
def Item.actions (commands : List Command) (number : Nat) : Item → List Action
  | .wait milliseconds => [.delay number milliseconds]
  | .command silent name args =>
    let key := lower name
    let text := String.ofList (Words.phrase (name :: args))
    match Command.allNamed commands key with
    | [] => [.deliver number key text args]
    | found => found.map fun c => .invoke number key c text silent args

/-- The actions of items on lines that are numbered from `number` on. -/
def Item.queue (commands : List Command) (number : Nat) (items : List Item) : List Action :=
  (items.zipIdx number).flatMap fun (item, n) => item.actions commands n

/-! ### Slashes -/

/-- A text in which no two slashes stand next to each other. -/
def IsApart (text : List Char) : Prop := text.IsChain fun c d => ¬ (c = '/' ∧ d = '/')

theorem IsPlain.isApart {text : List Char} (h : IsPlain text) :
  IsApart text
  := by
  rw [IsApart, List.isChain_iff_forall_rel_of_append_cons_cons]
  rintro c d front rest rfl ⟨rfl, rfl⟩
  apply h.not_infix
  use front, rest
  simp

/-- Where no two slashes stand next to each other there is no comment. -/
theorem beforeComment_eq {text : List Char} (h : IsApart text) :
  beforeComment text = text
  := by
  fun_induction beforeComment text with
  | case1 rest => simp [IsApart] at h
  | case2 c rest hno ih => rw [ih h.of_cons]
  | case3 => rfl

theorem isApart_of_not_mem {text : List Char} (h : '/' ∉ text) :
  IsApart text
  := by
  apply List.Pairwise.isChain
  apply List.pairwise_of_forall_mem_list
  rintro c hc d - ⟨rfl, -⟩
  apply h hc

theorem isApart_cons {c : Char} {text : List Char} (hc : c ≠ '/') (h : IsApart text) :
  IsApart (c :: text)
  := by
  apply List.isChain_cons.mpr ⟨_, h⟩
  rintro d - ⟨rfl, -⟩
  apply hc rfl

theorem isApart_append {s t : List Char} (hs : IsApart s) (ht : IsApart t)
    (h : t.head? ≠ some '/') :
  IsApart (s ++ t)
  := by
  apply List.isChain_append.mpr ⟨hs, ht, _⟩
  rintro c - d hd ⟨-, rfl⟩
  apply h hd

/-- Writing out the characters of a text does not bring in a character that none of them but
itself brings in. -/
theorem not_mem_flatMap {f : Char → List Char} {x : Char} (hf : ∀ c, x ∈ f c → c = x)
    {text : List Char} (h : x ∉ text) :
  x ∉ text.flatMap f
  := by
  intro hmem
  obtain ⟨c, hc, hx⟩ := List.mem_flatMap.mp hmem
  obtain rfl := hf c hx
  apply h hc

/-- Writing out the characters of a text puts no two slashes next to each other that were not,
provided that a slash stands for itself and no other character brings one in. -/
theorem isApart_flatMap {f : Char → List Char} (hslash : f '/' = ['/'])
    (hother : ∀ c, c ≠ '/' → f c ≠ [] ∧ '/' ∉ f c) {text : List Char} (h : IsApart text) :
  IsApart (text.flatMap f)
  := by
  have hmem : ∀ c, '/' ∈ f c → c = '/' := fun c hc =>
    by_contra fun hne => (hother c hne).2 hc
  have hne : [] ∉ text.map f := by
    intro hnil
    obtain ⟨c, -, hc⟩ := List.mem_map.mp hnil
    by_cases hsame : c = '/'
    · rw [hsame, hslash] at hc
      cases hc
    · apply (hother c hsame).1 hc
  rw [IsApart, List.flatMap_def, List.isChain_flatten hne, List.isChain_map]
  constructor
  · intro piece hpiece
    obtain ⟨c, -, rfl⟩ := List.mem_map.mp hpiece
    by_cases hsame : c = '/'
    · rw [hsame, hslash]
      apply List.isChain_singleton
    · apply isApart_of_not_mem (hother c hsame).2
  · apply h.imp
    rintro c d hno x hx y hy ⟨rfl, rfl⟩
    apply hno
    exact ⟨hmem c (List.mem_of_getLast? hx), hmem d (List.mem_of_head? hy)⟩

/-! ### Words -/

namespace Words

/-- What stands for a character between quotes. -/
def shieldedChar (c : Char) : List Char := if c = '"' ∨ c = '\\' then ['\\', c] else [c]

theorem shielded_eq (s : List Char) :
  shielded s = s.flatMap shieldedChar
  := by
  induction s with
  | nil => rfl
  | cons c r ih =>
    rw [shielded, List.flatMap_cons, ih, shieldedChar]
    split <;> rfl

/-- Between quotes a text is read as it is, up to the quote that closes it. -/
theorem splitFrom_shielded (s : List Char) :
  ∀ word r : List Char, splitFrom word true (shielded s ++ '"' :: r)
    = (word ++ s) :: splitFrom [] false r
  := by
  induction s with
  | nil =>
    intro word r
    simp [shielded, splitFrom]
  | cons c s ih =>
    intro word r
    rw [shielded]
    split
    · rename_i hc
      have hescaped : escaped c = [c] := by
        rw [escaped, if_pos]
        rcases hc with rfl | rfl <;> simp
      simp [splitFrom, hescaped, ih]
    · rename_i hc
      obtain ⟨hquote, hback⟩ := not_or.mp hc
      simp [splitFrom, hback, ih]

theorem splitFrom_quoted (s r : List Char) :
  splitFrom [] false (quoted s ++ r) = s :: splitFrom [] false r
  := by
  have hread := splitFrom_shielded s [] r
  simpa [quoted, splitFrom] using hread

/-- Words that are written between quotes are read as they are. -/
theorem split_phrase (words : List String) :
  split (phrase words) = words.map String.toList
  := by
  rw [split, phrase]
  induction words with
  | nil => rfl
  | cons word words ih =>
    rcases words with _ | ⟨next, rest⟩
    · have hread := splitFrom_quoted word.toList []
      simpa [splitFrom, ended] using hread
    · rw [List.map_cons, List.intercalate_cons_of_ne_nil (by simp), List.append_assoc,
        splitFrom_quoted]
      have hblank : isBlank ' ' = true := by decide
      simpa [splitFrom, ended, hblank] using ih

end Words

/-! ### Lines -/

theorem pieces_intercalate {sep : Char} {ls : List (List Char)} (hne : ls ≠ [])
    (h : ∀ l ∈ ls, sep ∉ l) :
  pieces sep ([sep].intercalate ls) = ls
  := by
  induction ls with
  | nil => cases hne rfl
  | cons l ls ih =>
    have hl := pieces_of_not_mem (h l List.mem_cons_self)
    rcases ls with _ | ⟨next, rest⟩
    · simpa using hl
    · rw [List.intercalate_cons_of_ne_nil (by simp), List.append_assoc, List.singleton_append,
        pieces_append_sep, hl, ih (by simp) fun m hm => h m (List.mem_cons_of_mem l hm)]
      rfl

/-- A line that is read as it stands: it has no line feed and no comment, and ends in something
that is not blank. -/
structure IsRead (line : List Char) : Prop where
  newline_not_mem : '\n' ∉ line
  isApart : IsApart line
  exists_last : ∃ front c, line = front ++ [c] ∧ isBlank c = false

theorem IsRead.dropReturn_eq {line : List Char} (h : IsRead line) :
  dropReturn line = line
  := by
  obtain ⟨front, c, rfl, hc⟩ := h.exists_last
  have hne : c ≠ '\r' := by
    rintro rfl
    revert hc
    decide
  simp [dropReturn, hne]

theorem linesOfPieces_eq {ls : List (List Char)} (h : ∀ l ∈ ls, IsRead l) :
  linesOfPieces ls = ls
  := by
  induction ls with
  | nil => rfl
  | cons l ls ih =>
    have hl := h l List.mem_cons_self
    rcases ls with _ | ⟨next, rest⟩
    · obtain ⟨front, c, rfl, -⟩ := hl.exists_last
      simp [linesOfPieces]
    · rw [linesOfPieces, hl.dropReturn_eq, ih fun m hm => h m (List.mem_cons_of_mem l hm)]
      simp

/-- Lines that are read as they stand are told apart by the line feeds between them. -/
theorem lines_intercalate {ls : List (List Char)} (hne : ls ≠ []) (h : ∀ l ∈ ls, IsRead l) :
  lines (['\n'].intercalate ls) = ls
  := by
  rw [lines, pieces_intercalate hne fun l hl => (h l hl).newline_not_mem, linesOfPieces_eq h]

/-- No comment is taken from a line that is read as it stands. -/
theorem IsRead.read_eq {line : List Char} (h : IsRead line) :
  Line.read line = .text line
  := by
  obtain ⟨front, c, hline, hc⟩ := h.exists_last
  have htrim : trimEnd line = line := by
    rw [hline, trimEnd_concat_of_not_blank front c hc]
  rw [Line.read.eq_def]
  split
  · have hapart := h.isApart
    simp [IsApart] at hapart
  · rw [beforeComment_eq h.isApart, htrim]

/-! ### Braces -/

/-- Doubled braces become single ones, whatever the arguments are. -/
theorem bindFrom_doubled (params : List String) (text : List Char) :
  ∀ column, bindFrom params column .outside (doubled text) = .ok text
  := by
  induction text with
  | nil =>
    intro column
    rfl
  | cons c text ih =>
    intro column
    rw [doubled, List.flatMap_cons, ← doubled, doubledChar]
    split
    · rename_i hc
      rcases hc with rfl | rfl
      · simp [bindFrom, ih]
      · simp [bindFrom, ih]
    · rename_i hc
      obtain ⟨hopen, hclose⟩ := not_or.mp hc
      simp [bindFrom, hopen, hclose, ih]

theorem Scope.fill_written (scope : Scope) (number : Nat) (text : List Char) :
  scope.fill number (written scope.params text) = .ok text
  := by
  rw [Scope.fill, written]
  split
  · rfl
  · rw [bindChars, bindFrom_doubled]
    rfl

theorem written_cons {c : Char} (hc : c ≠ '{' ∧ c ≠ '}') (params : List String)
    (text : List Char) :
  written params (c :: text) = c :: written params text
  := by
  have hsingle : doubledChar c = [c] := by simp [doubledChar, hc]
  simp only [written, doubled, List.flatMap_cons, hsingle]
  split <;> rfl

/-- Doubling the braces of lines is doubling those of their text. -/
theorem written_intercalate (params : List String) (ls : List (List Char)) :
  written params (['\n'].intercalate ls) = ['\n'].intercalate (ls.map (written params))
  := by
  by_cases hparams : params = []
  · have hid : written params = id := by
      funext text
      simp [written, hparams]
    simp [hid]
  · have hdoubled : written params = doubled := by
      funext text
      simp [written, hparams]
    rw [hdoubled]
    induction ls with
    | nil => rfl
    | cons l ls ih =>
      rcases ls with _ | ⟨next, rest⟩
      · simp
      · have htail : (next :: rest).map doubled ≠ [] := by simp
        rw [List.map_cons, List.intercalate_cons_of_ne_nil htail, ← ih,
          List.intercalate_cons_of_ne_nil (List.cons_ne_nil next rest)]
        simp [doubled, doubledChar]

/-! ### The lines of items -/

theorem IsRead.written {line : List Char} (h : IsRead line) (params : List String) :
  IsRead (Script.written params line)
  := by
  rw [Script.written]
  split
  · exact h
  · obtain ⟨front, c, hline, hc⟩ := h.exists_last
    constructor
    · apply not_mem_flatMap _ h.newline_not_mem
      intro d hd
      rw [doubledChar] at hd
      split at hd <;> simpa [eq_comm] using hd
    · apply isApart_flatMap (by decide) _ h.isApart
      intro d hd
      rw [doubledChar]
      split <;> simp [Ne.symm hd]
    · rw [hline, doubled, List.flatMap_append, List.flatMap_singleton, doubledChar]
      split
      · exact ⟨front.flatMap doubledChar ++ [c], c, by simp, hc⟩
      · exact ⟨front.flatMap doubledChar, c, rfl, hc⟩

/-- The lines of a script are those that it was written with. -/
theorem lines_written {ls : List (List Char)} (hne : ls ≠ []) (h : ∀ l ∈ ls, IsRead l)
    (params : List String) :
  lines (written params (['\n'].intercalate ls)) = ls.map (written params)
  := by
  rw [written_intercalate]
  apply lines_intercalate (by simpa using hne)
  intro line hline
  obtain ⟨l, hl, rfl⟩ := List.mem_map.mp hline
  apply (h l hl).written

namespace Words

theorem isApart_quoted {s : List Char} (h : IsApart s) :
  IsApart (quoted s)
  := by
  have hshielded : IsApart (shielded s) := by
    rw [shielded_eq]
    apply isApart_flatMap (by decide) _ h
    intro c hc
    rw [shieldedChar]
    split <;> simp [Ne.symm hc]
  have hclosed : IsApart (shielded s ++ ['"']) :=
    isApart_append hshielded (isApart_of_not_mem (by decide)) (by decide)
  apply isApart_cons (by decide) hclosed

theorem newline_not_mem_quoted {s : List Char} (h : '\n' ∉ s) :
  '\n' ∉ quoted s
  := by
  have hshielded : '\n' ∉ shielded s := by
    rw [shielded_eq]
    apply not_mem_flatMap _ h
    intro c hc
    rw [shieldedChar] at hc
    split at hc <;> simpa [eq_comm] using hc
  simpa [quoted] using hshielded

/-- Words between quotes are read as one line, if each of them may stand in a line. -/
theorem isRead_phrase {words : List String} (hne : words ≠ [])
    (h : ∀ word ∈ words, IsPlain word.toList) :
  IsRead (phrase words)
  := by
  induction words with
  | nil => cases hne rfl
  | cons word words ih =>
    have hword := h word List.mem_cons_self
    have hnewline := newline_not_mem_quoted hword.newline_not_mem
    have hapart := isApart_quoted hword.isApart
    rcases words with _ | ⟨next, rest⟩
    · rw [phrase, List.map_cons, List.map_nil, List.intercalate_singleton]
      exact ⟨hnewline, hapart, '"' :: shielded word.toList, '"', rfl, by decide⟩
    · have hrest := ih (by simp) fun other hother => h other (List.mem_cons_of_mem word hother)
      have hphrase : phrase (word :: next :: rest)
          = quoted word.toList ++ ' ' :: phrase (next :: rest) := by
        rw [phrase, List.map_cons, List.intercalate_cons_of_ne_nil (by simp)]
        simp [phrase]
      rw [hphrase]
      obtain ⟨front, c, hlast, hc⟩ := hrest.exists_last
      constructor
      · simp [hnewline, hrest.newline_not_mem]
      · apply isApart_append hapart _ (by simp)
        apply isApart_cons (by decide) hrest.isApart
      · exact ⟨quoted word.toList ++ ' ' :: front, c, by simp [hlast], hc⟩

/-- Words between quotes begin with a quote. -/
theorem exists_phrase_eq (word : String) (words : List String) :
  ∃ rest, phrase (word :: words) = '"' :: rest
  := by
  rw [phrase, List.map_cons, quoted, List.cons_append, List.intercalate_cons_cons_left]
  exact ⟨_, rfl⟩

end Words

/-! ### Numbers -/

theorem valueOfDigits_toDigits (n : Nat) :
  valueOfDigits (Nat.toDigits 10 n) = n
  := by
  have hvalue := Nat.ofDigitChars_ten_toDigits (n := n)
  rw [Nat.ofDigitChars_eq_foldl] at hvalue
  exact hvalue

theorem isDigit_of_mem_toDigits {n : Nat} {c : Char} (h : c ∈ Nat.toDigits 10 n) :
  c.isDigit
  := Nat.isDigit_of_mem_toDigits (by decide) (by decide) h

/-- A digit is not blank. -/
theorem isBlank_of_isDigit {c : Char} (h : c.isDigit) :
  isBlank c = false
  := by
  have hrange : 48 ≤ c.toNat ∧ c.toNat ≤ 57 := by
    simpa [Char.isDigit, UInt32.le_iff_toNat_le] using h
  simp only [isBlank, CodeRange.cover, blankRanges, List.any_cons, List.any_nil,
    Bool.or_false, Bool.or_eq_false_iff, Bool.and_eq_false_iff, decide_eq_false_iff_not]
  omega

/-- Digits have no blanks around them. -/
theorem trim_toDigits (n : Nat) :
  trim (Nat.toDigits 10 n) = Nat.toDigits 10 n
  := by
  have hblank : ∀ c ∈ Nat.toDigits 10 n, isBlank c = false :=
    fun c hc => isBlank_of_isDigit (isDigit_of_mem_toDigits hc)
  have htrim := trim_append_of_not_blank (List.forall_mem_nil _) hblank (List.forall_mem_nil _)
  rwa [List.nil_append, List.append_nil] at htrim

/-- A number that fits a word is read from its digits. -/
theorem word?_toDigits {n : Nat} (h : n < wordLimit) :
  word? (Nat.toDigits 10 n) = some n
  := by
  have hdecimal : decimal? (Nat.toDigits 10 n) = some n := by
    have hall : (Nat.toDigits 10 n).all Char.isDigit := by
      rw [List.all_eq_true]
      intro c hc
      apply isDigit_of_mem_toDigits hc
    simp [decimal?, hall, Nat.toDigits_ne_nil, valueOfDigits_toDigits]
  have hunsigned : unsignedWord? (Nat.toDigits 10 n) = some n :=
    unsignedWord?_eq_some_iff.mpr ⟨hdecimal, h⟩
  unfold word?
  split
  · rename_i s hplus
    have hdigit : '+'.isDigit := isDigit_of_mem_toDigits (n := n) (by rw [hplus]; simp)
    cases hdigit
  · exact hunsigned

/-! ### What lines mean -/

theorem toList_toString (n : Nat) :
  (toString n).toList = Nat.toDigits 10 n
  := by
  rw [Nat.toString_eq_ofList_toDigits, String.toList_ofList]

theorem Item.isRead_line {commands : List Command} {item : Item}
    (h : item.IsWritable commands) :
  IsRead item.line
  := by
  cases item with
  | wait milliseconds =>
    rw [Item.line, toList_toString]
    have hdigits : ∀ c ∈ Nat.toDigits 10 milliseconds, c.isDigit :=
      fun c hc => isDigit_of_mem_toDigits hc
    have hno : ∀ c : Char, c.isDigit = false → c ∉ waitMark →
        c ∉ waitMark ++ Nat.toDigits 10 milliseconds := by
      intro c hc hmark hmem
      rcases List.mem_append.mp hmem with hmem | hmem
      · apply hmark hmem
      · rw [hdigits c hmem] at hc
        cases hc
    constructor
    · apply hno <;> decide
    · apply isApart_of_not_mem
      apply hno <;> decide
    · have hlast := List.dropLast_append_getLast (Nat.toDigits_ne_nil (n := milliseconds) (b := 10))
      refine ⟨waitMark ++ (Nat.toDigits 10 milliseconds).dropLast, _, ?_,
        isBlank_of_isDigit (hdigits _ (List.getLast_mem Nat.toDigits_ne_nil))⟩
      rw [List.append_assoc, hlast]
  | command silent name args =>
    have hphrase := Words.isRead_phrase (List.cons_ne_nil name args) h.1
    obtain ⟨rest, hrest⟩ := Words.exists_phrase_eq name args
    obtain ⟨front, c, hlast, hc⟩ := hphrase.exists_last
    have hnewline := hphrase.newline_not_mem
    have hapart := hphrase.isApart
    constructor
    · cases silent <;> simp [Item.line, hnewline]
    · rw [hrest] at hapart
      rw [Item.line, hrest]
      apply List.isChain_cons_cons.mpr ⟨_, hapart⟩
      rintro ⟨-, hquote⟩
      cases hquote
    · exact ⟨_ :: front, c, by rw [Item.line, hlast, List.cons_append], hc⟩

theorem isPrefixOf?_eq_none {pre line : List Char} (h : ¬ pre <+: line) :
  pre.isPrefixOf? line = none
  := by
  apply Option.eq_none_iff_forall_ne_some.mpr
  intro rest hrest
  apply h
  exact ⟨rest, List.isPrefixOf?_eq_some_iff_append_eq.mp hrest⟩

namespace Directive

variable (specifiers : Specifiers) (split : List Char → List (List Char))

/-- A line with the mark of a wait is one, or the complaint that quotes what stands behind the
mark. -/
theorem read_waitMark (rest : List Char) :
  read specifiers (waitMark ++ rest) split
    = match word? (trim rest) with
      | some milliseconds => .ok (.wait milliseconds)
      | none => .error ⟨String.ofList rest⟩
  := by
  have hmark : waitMark.isPrefixOf? (waitMark ++ rest) = some rest := rfl
  cases hvalue : word? (trim rest) with
  | none => simp only [read, hmark, hvalue]
  | some milliseconds => simp only [read, hmark, hvalue]

theorem read_requireMark (rest : List Char) :
  read specifiers (requireMark ++ rest) split
    = .ok (.require ((requiredNames rest).map String.ofList))
  := by
  have hwait : waitMark.isPrefixOf? (requireMark ++ rest) = none := rfl
  have hrequire : requireMark.isPrefixOf? (requireMark ++ rest) = some rest := rfl
  simp only [read, hwait, hrequire]

theorem read_of_not_mark {line : List Char} (hwait : ¬ waitMark <+: line)
    (hrequire : ¬ requireMark <+: line) :
  read specifiers line split = .ok (.ofCommandLine specifiers line split)
  := by
  simp only [read, isPrefixOf?_eq_none hwait, isPrefixOf?_eq_none hrequire]

end Directive

/-- A wait is read as it is written. -/
theorem Directive.read_wait {milliseconds : Nat} (h : milliseconds < wordLimit)
    (specifiers : Specifiers) :
  Directive.read specifiers (Item.wait milliseconds).line = .ok (.wait milliseconds)
  := by
  rw [Item.line, toList_toString, read_waitMark, trim_toDigits, word?_toDigits h]

/-- A command line with a mark is silent or not as its mark says. -/
theorem unmark_line (silent : Bool) (name : String) (args : List String) :
  unmark {} (Item.command silent name args).line = (silent, Words.phrase (name :: args))
  := by
  cases silent <;> simp [Item.line, unmark, dropMark?, List.isPrefixOf?]

/-- A command line is read as it is written. -/
theorem Directive.read_command (silent : Bool) (name : String) (args : List String) :
  Directive.read {} (Item.command silent name args).line
    = .ok (.command
      { silent
        text := String.ofList (Words.phrase (name :: args))
        name := lower name
        args })
  := by
  have hwait : waitMark.isPrefixOf? (Item.command silent name args).line = none := by
    cases silent <;> rfl
  have hrequire : requireMark.isPrefixOf? (Item.command silent name args).line = none := by
    cases silent <;> rfl
  have hargs : (args.map String.toList).map String.ofList = args := by simp [Function.comp_def]
  simp only [Directive.read, hwait, hrequire, Directive.ofCommandLine, unmark_line,
    Words.split_phrase, List.map_cons, String.ofList_toList, hargs]

namespace Scope

variable (scope : Scope)

/-! ### Compiling -/

/-- The line of an item comes to the actions of the item. -/
theorem compileText_line {item : Item} (h : item.IsWritable scope.commands)
    (hspecifiers : scope.specifiers = {}) (number : Nat) :
  scope.compileText number (written scope.params item.line)
    = .ok (item.actions scope.commands number)
  := by
  rw [compileText, fill_written, hspecifiers]
  cases item with
  | wait milliseconds =>
    simp only [Bind.bind, Except.bind, Resolver.split_list, Directive.read_wait h, Item.actions]
  | command silent name args =>
    simp only [Bind.bind, Except.bind, Resolver.split_list, Directive.read_command, Item.actions,
      actionsOf, Resolver.find_list]
    cases hfound : Command.allNamed scope.commands (lower name) with
    | nil => rfl
    | cons c rest =>
      have hallows : (c :: rest).all (·.allowsConsole) := by
        rw [List.all_eq_true, ← hfound]
        exact h.2
      simp only [hallows, if_true]

theorem compileLine_line {item : Item} (h : item.IsWritable scope.commands)
    (hspecifiers : scope.specifiers = {}) (number : Nat) :
  scope.compileLine number (written scope.params item.line)
    = .ok (item.actions scope.commands number)
  := by
  rw [compileLine, ((Item.isRead_line h).written scope.params).read_eq]
  apply compileText_line scope h hspecifiers

theorem compileLines_lines {items : List Item}
    (h : ∀ item ∈ items, item.IsWritable scope.commands)
    (hspecifiers : scope.specifiers = {}) :
  ∀ number, scope.compileLines number (items.map fun item => written scope.params item.line)
    = .ok (Item.queue scope.commands number items)
  := by
  induction items with
  | nil =>
    intro number
    rfl
  | cons item items ih =>
    intro number
    have hitem := compileLine_line scope (h item List.mem_cons_self) hspecifiers number
    have hrest := ih (fun other hother => h other (List.mem_cons_of_mem item hother)) (number + 1)
    simp only [List.map_cons, compileLines, hitem, hrest, Item.queue, List.zipIdx_cons,
      List.flatMap_cons]
    rfl

/-- The line of an item is neither a header nor blank. -/
theorem header?_line (params : List String) (item : Item) :
  header? (written params item.line) = none ∧ (written params item.line).all isBlank = false
  := by
  cases item with
  | wait milliseconds =>
    have hline : written params (Item.wait milliseconds).line
        = '#' :: 'w' :: written params
          (['a', 'i', 't', ' '] ++ (toString milliseconds).toList) := by
      rw [Item.line, waitMark, List.cons_append, List.cons_append, written_cons (by decide),
        written_cons (by decide)]
    have hblank : isBlank '#' = false := by decide
    rw [hline]
    exact ⟨rfl, by simp [hblank]⟩
  | command silent name args =>
    cases silent with
    | true =>
      have hblank : isBlank '.' = false := by decide
      rw [Item.line, if_pos rfl, written_cons (by decide)]
      exact ⟨rfl, by simp [hblank]⟩
    | false =>
      have hblank : isBlank '/' = false := by decide
      rw [Item.line, if_neg Bool.false_ne_true, written_cons (by decide)]
      exact ⟨rfl, by simp [hblank]⟩

/-- Compiling undoes writing: the script of items that can be written down is compiled, and to
the actions of the items, those of each on the line of its place. -/
theorem compile_render {items : List Item} (hne : items ≠ [])
    (h : ∀ item ∈ items, item.IsWritable scope.commands)
    (hspecifiers : scope.specifiers = {}) :
  scope.compile (render scope.params items) = .ok (Item.queue scope.commands 1 items)
  := by
  have hread : ∀ line ∈ items.map (·.line), IsRead line := by
    intro line hline
    obtain ⟨item, hitem, rfl⟩ := List.mem_map.mp hline
    apply Item.isRead_line (h item hitem)
  have hlines := lines_written (by simpa using hne) hread scope.params
  have hcompiled := compileLines_lines scope h hspecifiers 1
  obtain ⟨item, rest, rfl⟩ := List.exists_cons_of_ne_nil hne
  obtain ⟨hheader, hblank⟩ := header?_line scope.params item
  have hfirst := ((Item.isRead_line (h item List.mem_cons_self)).written scope.params).read_eq
  rw [compile, render, String.toList_ofList, hlines, List.map_map, List.map_cons, compileScript]
  simp only [Function.comp, hfirst, hblank, hheader]
  exact hcompiled

/-- A script with a wait and two commands, whose words have quotes, backslashes, braces, blanks
and single slashes in them, or nothing at all. -/
theorem compile_render_say :
  let say : Command := { given := ["say"] }
  let words := ["SAY", "", "a \"b\" \\ \x7b0\x7d", " / \\\""]
  let items := [.wait 250, .command true "SAY" words.tail, .command false "\x7d" []]
  Scope.compile { name := "show", params := ["x"], commands := [say], specifiers := {} }
      (render ["x"] items)
    = .ok
      [.delay 1 250,
        .invoke 2 "say" say (String.ofList (Words.phrase words)) true words.tail,
        .deliver 3 "\x7d" "\"\x7d\"" []]
  := by
  intro say words items
  have hwritable : ∀ item ∈ items, item.IsWritable [say] := by decide +kernel
  have hqueue : Item.queue [say] 1 items
      = [.delay 1 250,
        .invoke 2 "say" say (String.ofList (Words.phrase words)) true words.tail,
        .deliver 3 "\x7d" "\"\x7d\"" []] := by decide +kernel
  have hne : items ≠ [] := List.cons_ne_nil _ _
  rw [← hqueue]
  exact compile_render ⟨"show", ["x"], [say], {}⟩ hne hwritable rfl

end Scope

end CommandTimelines.Script
