import CommandTimelines.Script.Words
import Mathlib.Data.List.Basic

/-!
# Where words are cut

A text is read from the left as a list of marks (`Words.marks`): a character that is meant
literally, a quote that opens or closes a quoted stretch, or a gap, which is a blank outside of
quotes. A backslash takes the character after it with it. The words are what the marks are cut
into (`Words.splitFrom_eq_cut`), so what can be said about them is said about marks.

* `Words.flatten_cut`: the words hold the literal characters and nothing else, in their order.
* `Words.together_cut_iff`: two characters are in one word exactly if all marks between them are
  literal characters.
* `Words.emptiesFrom_cut`: the empty words are the closed pairs of quotes with nothing between.
* `Words.split_eq_filter`: without quotes and backslashes, words are what blanks separate.
-/

namespace CommandTimelines.Script

open Text

namespace Words

/-! ### Marks -/

/-- What is read of a text at a time. -/
inductive Mark where
  /-- A character that belongs to a word. -/
  | literal (c : Char)
  /-- A quote that opens a quoted stretch. -/
  | opening
  /-- A quote that closes a quoted stretch. -/
  | closing
  /-- A blank outside of quotes. -/
  | gap
deriving DecidableEq, Repr

/-- Whether a mark is a character that belongs to a word. -/
def Mark.isLiteral : Mark → Bool
  | .literal _ => true
  | _ => false

/-- The marks of a text; `quoted` says whether a quote is open. A backslash before a quote, a space
or another backslash is not meant literally, and any other one is. -/
def marks (quoted : Bool) : List Char → List Mark
  | [] => []
  | ['\\'] => [.literal '\\']
  | '\\' :: c :: r =>
    if c = '"' ∨ c = ' ' ∨ c = '\\' then .literal c :: marks quoted r
    else .literal '\\' :: .literal c :: marks quoted r
  | '"' :: r => (if quoted then .closing else .opening) :: marks (!quoted) r
  | c :: r => (if isBlank c && !quoted then .gap else .literal c) :: marks quoted r

/-- The literal characters among marks. -/
def literals (ms : List Mark) : List Char :=
  ms.filterMap fun
    | .literal c => some c
    | _ => none

/-- The words that marks are cut into, when `word` has been read of the word at hand. -/
def cut (word : List Char) : List Mark → List (List Char)
  | [] => ended word
  | .literal c :: r => cut (word ++ [c]) r
  | .closing :: r => word :: cut [] r
  | .opening :: r => ended word ++ cut [] r
  | .gap :: r => ended word ++ cut [] r

/-- The words of a text are what its marks are cut into. -/
theorem splitFrom_eq_cut (text : List Char) :
  ∀ word quoted, splitFrom word quoted text = cut word (marks quoted text)
  := by
  intro word quoted
  fun_induction splitFrom word quoted text with
  | case1 word quoted => rfl
  | case2 word quoted =>
    simp [marks, cut, ended]
  | case3 word quoted c r ih =>
    rw [ih, marks, escaped]
    split <;> simp [cut]
  | case4 word quoted r hcut ih =>
    rw [ih, marks]
    cases quoted with
    | true => rfl
    | false =>
      have hne : word ≠ [] := by simpa using hcut
      simp [cut, ended, hne]
  | case5 word quoted r hcut ih =>
    obtain ⟨rfl, rfl⟩ : quoted = false ∧ word = [] := by simpa using hcut
    exact ih
  | case6 word quoted c r hend hback hquote hgap ih =>
    rw [ih, marks.eq_5 _ _ _ hend hback hquote, if_pos hgap]
    rfl
  | case7 word quoted c r hend hback hquote hgap ih =>
    rw [ih, marks.eq_5 _ _ _ hend hback hquote, if_neg hgap]
    rfl

/-! ### Nothing is lost or made up -/

@[simp]
theorem flatten_ended (word : List Char) :
  (ended word).flatten = word
  := by
  rw [ended]
  split <;> simp_all

@[simp]
theorem literals_append (ms ns : List Mark) :
  literals (ms ++ ns) = literals ms ++ literals ns
  := List.filterMap_append

/-- The words hold the literal characters, in their order. -/
theorem flatten_cut (ms : List Mark) :
  ∀ word, (cut word ms).flatten = word ++ literals ms
  := by
  induction ms with
  | nil =>
    intro word
    simp [cut, literals]
  | cons m r ih =>
    intro word
    cases m with
    | literal c => simp [cut, ih, literals]
    | _ => simp [cut, ih, literals]

/-! ### What is in one word -/

/-- The `i`-th and the `j`-th of all the characters of words, of which `i` is not the later one, are
in the same word. -/
def Together (words : List (List Char)) (i j : Nat) : Prop :=
  ∃ earlier word later, words = earlier ++ word :: later ∧ earlier.flatten.length ≤ i ∧
    j < (earlier ++ [word]).flatten.length

/-- Characters are not in the same word if words end between them. -/
theorem not_together_append {earlier later : List (List Char)} {i j : Nat}
    (hi : i < earlier.flatten.length) (hj : earlier.flatten.length ≤ j) :
  ¬ Together (earlier ++ later) i j
  := by
  rintro ⟨earlier', word, later', heq, hi', hj'⟩
  rw [List.append_cons] at heq
  have hle : ∀ {xs more : List (List Char)}, xs.flatten.length ≤ (xs ++ more).flatten.length := by
    intro xs more
    rw [List.flatten_append, List.length_append]
    omega
  obtain ⟨more, hmore, -⟩ | ⟨more, rfl, -⟩ := List.append_eq_append_iff.mp heq
  · obtain rfl | ⟨front, last, rfl⟩ := List.eq_nil_or_concat more
    · rw [hmore, List.append_nil] at hj'
      exact absurd hj' (Nat.not_lt.mpr hj)
    · rw [List.concat_eq_append, ← List.append_assoc] at hmore
      obtain ⟨rfl, -⟩ := List.append_inj' hmore rfl
      exact absurd (Nat.le_trans hle hi') (Nat.not_le.mpr hi)
  · exact absurd (Nat.lt_of_lt_of_le hj' hle) (Nat.not_lt.mpr hj)

/-- What marks are cut into, up to some point: words, and what has been read of the next one. -/
theorem exists_cut_append (ms : List Mark) :
  ∀ word, ∃ earlier begun, earlier.flatten ++ begun = word ++ literals ms ∧
    ∀ ns, cut word (ms ++ ns) = earlier ++ cut begun ns
  := by
  induction ms with
  | nil =>
    intro word
    exact ⟨[], word, by simp [literals], fun ns => rfl⟩
  | cons m r ih =>
    intro word
    cases m with
    | literal c =>
      obtain ⟨earlier, begun, hbegun, hcut⟩ := ih (word ++ [c])
      exact ⟨earlier, begun, by simpa [literals] using hbegun, hcut⟩
    | closing =>
      obtain ⟨earlier, begun, hbegun, hcut⟩ := ih []
      refine ⟨word :: earlier, begun, by simpa [literals] using hbegun, ?_⟩
      intro ns
      simp [cut, hcut]
    | _ =>
      obtain ⟨earlier, begun, hbegun, hcut⟩ := ih []
      refine ⟨ended word ++ earlier, begun, by simpa [literals] using hbegun, ?_⟩
      intro ns
      simp [cut, hcut]

/-- Literal characters go on with the word at hand. -/
theorem cut_literals {ms : List Mark} (h : ∀ m ∈ ms, m.isLiteral) (ns : List Mark) :
  ∀ word, cut word (ms ++ ns) = cut (word ++ literals ms) ns
  := by
  induction ms with
  | nil =>
    intro word
    simp [literals]
  | cons m r ih =>
    intro word
    obtain ⟨hm, hr⟩ := List.forall_mem_cons.mp h
    cases m with
    | literal c => simp [cut, ih hr, literals]
    | _ => cases hm

/-- A word that has begun is the first one, and possibly goes on. -/
theorem exists_cut_eq_cons (ms : List Mark) :
  ∀ word, word ≠ [] → ∃ more later, cut word ms = (word ++ more) :: later
  := by
  induction ms with
  | nil =>
    intro word hne
    exact ⟨[], [], by simp [cut, ended, hne]⟩
  | cons m r ih =>
    intro word hne
    cases m with
    | literal c =>
      obtain ⟨more, later, hcut⟩ := ih (word ++ [c]) (by simp)
      exact ⟨c :: more, later, by simp [cut, hcut]⟩
    | _ => exact ⟨[], cut [] r, by simp [cut, ended, hne]⟩

/-- A mark that is no literal character ends the word at hand. -/
theorem cut_of_not_isLiteral {m : Mark} (hm : m.isLiteral = false) {word : List Char}
    (hne : word ≠ []) (ms : List Mark) :
  cut word (m :: ms) = word :: cut [] ms
  := by
  cases m with
  | literal c => cases hm
  | closing => rfl
  | _ => simp [cut, ended, hne]

/-- Two characters are in the same word exactly if all marks between them are literal characters. -/
theorem together_cut_iff (before between after : List Mark) (c d : Char) :
  Together (cut [] (before ++ .literal c :: between ++ .literal d :: after))
      (literals before).length ((literals before).length + (literals between).length + 1)
    ↔ ∀ m ∈ between, m.isLiteral
  := by
  obtain ⟨earlier, begun, hbegun, hcut⟩ := exists_cut_append before []
  have hlength := congrArg List.length hbegun
  simp only [List.length_append, List.nil_append] at hlength
  rw [List.append_assoc, hcut, List.cons_append, cut]
  constructor
  · intro htogether m hm
    by_contra hliteral
    -- The first mark that is no literal character ends the word that the first character is in.
    have hfind : (between.find? (!·.isLiteral)).isSome := by
      rw [List.find?_isSome]
      exact ⟨m, hm, by simpa using hliteral⟩
    obtain ⟨stop, hstop⟩ := Option.isSome_iff_exists.mp hfind
    obtain ⟨hends, front, rest, rfl, hfront⟩ := List.find?_eq_some_iff_append.mp hstop
    have hliterals : ∀ m ∈ front, m.isLiteral := by simpa using hfront
    rw [List.append_assoc, cut_literals hliterals, List.cons_append,
      cut_of_not_isLiteral (by simpa using hends) (by simp), List.append_cons] at htogether
    have hwords : (earlier ++ [begun ++ [c] ++ literals front]).flatten.length
        = (literals before).length + 1 + (literals front).length := by
      simp [-List.length_flatten]
      omega
    refine not_together_append ?_ ?_ htogether
    · omega
    · rw [hwords, literals_append, List.length_append]
      omega
  · intro hall
    rw [cut_literals hall, cut]
    obtain ⟨more, later, hfirst⟩ :=
      exists_cut_eq_cons after (begun ++ [c] ++ literals between ++ [d]) (by simp)
    rw [hfirst]
    refine ⟨earlier, _, later, rfl, by omega, ?_⟩
    simp [-List.length_flatten]
    omega

/-! ### Empty words -/

/-- How many characters come before each empty word, if `n` come before the first word. -/
def emptiesFrom (n : Nat) : List (List Char) → List Nat
  | [] => []
  | word :: rest => (if word = [] then [n] else []) ++ emptiesFrom (n + word.length) rest

/-- How many literal characters come before each pair of quotes that is closed with nothing between,
if `n` come before the first mark. -/
def emptyPairsFrom (n : Nat) : List Mark → List Nat
  | [] => []
  | .literal _ :: r => emptyPairsFrom (n + 1) r
  | .opening :: r => (if r.head? = some .closing then [n] else []) ++ emptyPairsFrom n r
  | .closing :: r => emptyPairsFrom n r
  | .gap :: r => emptyPairsFrom n r

/-- Quotes open and close in turn, and there is no gap in between; `quoted` says whether a quote is
open at first. -/
inductive Balanced : Bool → List Mark → Prop
  | nil (quoted : Bool) : Balanced quoted []
  | literal (c : Char) {quoted : Bool} {r : List Mark} (h : Balanced quoted r) :
      Balanced quoted (.literal c :: r)
  | opening {r : List Mark} (h : Balanced true r) : Balanced false (.opening :: r)
  | closing {r : List Mark} (h : Balanced false r) : Balanced true (.closing :: r)
  | gap {r : List Mark} (h : Balanced false r) : Balanced false (.gap :: r)

theorem balanced_marks (quoted : Bool) (text : List Char) :
  Balanced quoted (marks quoted text)
  := by
  fun_induction marks quoted text with
  | case1 quoted => exact .nil quoted
  | case2 quoted => exact .literal _ (.nil quoted)
  | case3 quoted c r hc ih => exact .literal _ ih
  | case4 quoted c r hc ih => exact .literal _ (.literal _ ih)
  | case5 quoted r ih =>
    cases quoted with
    | true => exact .closing ih
    | false => exact .opening ih
  | case6 quoted c r _ _ _ ih =>
    split
    · rename_i hgap
      obtain rfl : quoted = false := by simpa using (Bool.and_eq_true_iff.mp hgap).2
      exact .gap ih
    · exact .literal c ih

theorem emptiesFrom_ended_append (n : Nat) (word : List Char) (rest : List (List Char)) :
  emptiesFrom n (ended word ++ rest) = emptiesFrom (n + word.length) rest
  := by
  by_cases hne : word = [] <;> simp [ended, emptiesFrom, hne]

/-- The empty words stand where pairs of quotes are closed with nothing between. A quote that has
just been opened may still be closed at once. -/
theorem emptiesFrom_cut {quoted : Bool} {ms : List Mark} (h : Balanced quoted ms) :
  ∀ n word, emptiesFrom n (cut word ms)
    = if quoted ∧ word = [] then emptyPairsFrom n (.opening :: ms)
      else emptyPairsFrom (n + word.length) ms
  := by
  induction h with
  | nil quoted =>
    intro n word
    by_cases hne : word = [] <;> simp [cut, ended, emptiesFrom, emptyPairsFrom, hne]
  | literal c _ ih =>
    intro n word
    rw [cut, ih, if_neg (by simp)]
    split
    · rename_i hopen
      simp [emptyPairsFrom, hopen.2]
    · simp [emptyPairsFrom, Nat.add_assoc]
  | opening _ ih =>
    intro n word
    rw [cut, emptiesFrom_ended_append, ih, if_pos ⟨rfl, rfl⟩, if_neg (by simp)]
  | closing _ ih =>
    intro n word
    rw [cut, emptiesFrom, ih]
    by_cases hne : word = [] <;> simp [emptyPairsFrom, hne]
  | gap _ ih =>
    intro n word
    rw [cut, emptiesFrom_ended_append, ih, if_neg (by simp), if_neg (by simp)]
    rfl

/-! ### Without quotes and backslashes -/

theorem modifyHead_nil_append (found : List (List Char)) :
  found.modifyHead ([] ++ ·) = found
  := by
  cases found <;> rfl

/-- Words are what blanks separate, if there is nothing else to be looked at. -/
theorem splitFrom_eq_filter {text : List Char} (hquote : '"' ∉ text) (hback : '\\' ∉ text) :
  ∀ word, splitFrom word false text
    = ((text.splitOnP isBlank).modifyHead (word ++ ·)).filter (· ≠ [])
  := by
  induction text with
  | nil =>
    intro word
    by_cases hne : word = [] <;> simp [splitFrom, ended, hne]
  | cons c r ih =>
    intro word
    obtain ⟨hquoteHead, hquoteRest⟩ := not_or.mp (mt List.mem_cons.mpr hquote)
    obtain ⟨hbackHead, hbackRest⟩ := not_or.mp (mt List.mem_cons.mpr hback)
    rw [splitFrom_cons (Ne.symm hquoteHead) (Ne.symm hbackHead), ih hquoteRest hbackRest,
      ih hquoteRest hbackRest, List.splitOnP_cons_eq_if_modifyHead]
    split
    · rw [modifyHead_nil_append]
      by_cases hne : word = [] <;> simp [ended, hne]
    · rw [List.modifyHead_modifyHead]
      simp [Function.comp_def]

end Words

/-- A text is read from the left as marks. Its words hold the literal characters and nothing else,
in their order; two of these are in the same word exactly if no quote and no gap stands between
them; and the empty words are, one for one and in their places, the pairs of quotes that are closed
with nothing between. The words of a text without quotes and backslashes are what its blanks
separate. -/
theorem words_cut_at_marks (text : String) :
  let read := Words.marks false text.toList
  let found := (words text).map String.toList
  found.flatten = Words.literals read ∧
  (∀ before c between d after,
    read = before ++ .literal c :: between ++ .literal d :: after →
    (Words.Together found (Words.literals before).length
        ((Words.literals before).length + (Words.literals between).length + 1)
      ↔ ∀ mark ∈ between, mark.isLiteral)) ∧
  Words.emptiesFrom 0 found = Words.emptyPairsFrom 0 read ∧
  ('"' ∉ text.toList → '\\' ∉ text.toList →
    found = (text.toList.splitOnP isBlank).filter (· ≠ []))
  := by
  intro read found
  have hfound : found = Words.cut [] read := by
    simp only [found, words, List.map_map, Function.comp_def, String.toList_ofList, List.map_id',
      Words.split, Words.splitFrom_eq_cut]
    rfl
  refine ⟨?_, ?_, ?_, ?_⟩
  · rw [hfound, Words.flatten_cut, List.nil_append]
  · intro before c between d after hread
    rw [hfound, hread]
    apply Words.together_cut_iff
  · rw [hfound, Words.emptiesFrom_cut (Words.balanced_marks false _), if_neg (by simp)]
    rfl
  · intro hquote hback
    have hsplit := Words.splitFrom_eq_filter hquote hback []
    rwa [Words.splitFrom_eq_cut, ← hfound, Words.modifyHead_nil_append] at hsplit

/-- A pair of quotes with nothing between is an empty word, an escaped space does not end a word,
and a word ends where a quote opens. -/
theorem words_cut_at_marks_say :
  let found := (words "say \"\" a\\ b\"c").map String.toList
  found.flatten = "saya bc".toList ∧ Words.Together found 3 5 ∧ ¬ Words.Together found 5 6 ∧
  Words.emptiesFrom 0 found = [3] ∧
  (words " say\tit ").map String.toList = ["say".toList, "it".toList]
  := by
  obtain ⟨hflatten, htogether, hempties, -⟩ := words_cut_at_marks "say \"\" a\\ b\"c"
  obtain ⟨-, -, -, hplain⟩ := words_cut_at_marks " say\tit "
  have hsame := htogether [.literal 's', .literal 'a', .literal 'y', .gap, .opening, .closing, .gap]
    'a' [.literal ' '] 'b' [.opening, .literal 'c'] (by decide)
  have hother := htogether [.literal 's', .literal 'a', .literal 'y', .gap, .opening, .closing,
    .gap, .literal 'a', .literal ' '] 'b' [.opening] 'c' [] (by decide)
  refine ⟨?_, hsame.mpr (by decide), mt hother.mp (by decide), ?_, ?_⟩
  · rw [hflatten]
    decide
  · rw [hempties]
    decide
  · rw [hplain (by decide) (by decide)]
    decide

end CommandTimelines.Script
