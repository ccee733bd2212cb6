import CommandTimelines.Proofs.Placeholders

/-!
# Faults in lines

Pieces are read off a line from the left, and the first place at which no piece begins is where the
line is at fault: behind the longest text at the beginning of the line that the arguments can be
put into (`LongestRead`). A brace stands there, and it is what the fault is about (`FaultAt`): it
opens a placeholder for an argument that was not given, or it forms neither a placeholder nor a
doubled brace. Nothing to the right of it matters, and what is to the left of it matters only for
the column, which is counted in bytes (`bindFrom_shift`). `bind_faultAt` puts it together.
-/

namespace CommandTimelines.Script

open Text

/-- Of the texts at the beginning of a line into which the arguments can be put, the longest. -/
structure LongestRead (params : List String) (line front : String) : Prop where
  isPrefix : front.toList <+: line.toList
  reads : ∃ value, bind params front = .ok value
  longest : ∀ other : String, other.toList <+: line.toList →
    (∃ value, bind params other = .ok value) → other.length ≤ front.length

/-- A text begins with a placeholder, and its number fits 64 bits. -/
def StartsPlaceholder (index : Nat) (text : List Char) : Prop :=
  ∃ digits rest, (digits ≠ [] ∧ ∀ c ∈ digits, c.isDigit) ∧ valueOfDigits digits = index ∧
    index < wordLimit ∧ text = '{' :: (digits ++ '}' :: rest)

/-- What is wrong with a text that stands at a column and does not begin with a piece. -/
inductive FaultAt (params : List String) (column : Nat) (text : List Char) : BindFault → Prop
  | outOfRange {index : Nat} (h : StartsPlaceholder index text) (hle : params.length ≤ index) :
      FaultAt params column text (.outOfRange index params.length)
  | malformed (h : ∀ index, ¬ StartsPlaceholder index text) :
      FaultAt params column text (.malformed column)

/-- The fault in a line, when a text of so many bytes is put before the line. -/
def BindFault.shift (bytes : Nat) : BindFault → BindFault
  | .outOfRange index available => .outOfRange index available
  | .malformed column => .malformed (column + bytes)

/-! ### Where columns are counted from -/

/-- Where a reader stands, when a text of so many bytes is put before the line. -/
def BindMode.shift (bytes : Nat) : BindMode → BindMode
  | .outside => .outside
  | .inside start digits => .inside (start + bytes) digits

theorem argument_shift (params : List String) (bytes column : Nat) (digits : List Char) :
  argument params (column + bytes) digits
    = (argument params column digits).mapError (·.shift bytes)
  := by
  rw [argument, argument]
  cases unsignedWord? digits with
  | none => rfl
  | some index =>
    simp only
    cases params[index]? <;> rfl

/-- What is read does not depend on where columns are counted from, except for the column of a
fault. -/
theorem bindFrom_shift (params : List String) (bytes : Nat) (text : List Char) :
  ∀ column mode, bindFrom params (column + bytes) (mode.shift bytes) text
    = (bindFrom params column mode text).mapError (·.shift bytes)
  := by
  intro column mode
  induction column, mode, text using bindFrom.induct with
  | case1 column => rfl
  | case2 column r ih =>
    rw [BindMode.shift] at ih ⊢
    rw [bindFrom_doubled_open, bindFrom_doubled_open, Nat.add_right_comm, ih]
    cases bindFrom params (column + 2) .outside r <;> rfl
  | case3 column r ih =>
    rw [BindMode.shift] at ih ⊢
    rw [bindFrom_doubled_close, bindFrom_doubled_close, Nat.add_right_comm, ih]
    cases bindFrom params (column + 2) .outside r <;> rfl
  | case4 column r hdouble hclose ih =>
    rw [BindMode.shift, bindFrom_single params _ hdouble hclose, if_pos rfl,
      bindFrom_single params _ hdouble hclose, if_pos rfl, Nat.add_right_comm, ← ih]
    rfl
  | case5 column r hopen hdouble hne =>
    rw [BindMode.shift, bindFrom_single params _ hopen hdouble, if_neg hne, if_pos rfl,
      bindFrom_single params _ hopen hdouble, if_neg hne, if_pos rfl]
    rfl
  | case6 column c r hdouble hclose hopen hne ih =>
    rw [BindMode.shift] at ih ⊢
    rw [bindFrom_single params _ hdouble hclose, if_neg hopen, if_neg hne,
      bindFrom_single params _ hdouble hclose, if_neg hopen, if_neg hne, Nat.add_right_comm, ih]
    cases bindFrom params (column + c.utf8Size) .outside r <;> rfl
  | case7 column start digits => rfl
  | case8 column start digits r ih =>
    simp only [BindMode.shift] at ih ⊢
    rw [bindFrom_inside_cons, if_pos rfl, bindFrom_inside_cons, if_pos rfl, argument_shift,
      Nat.add_right_comm, ih]
    cases argument params start digits with
    | error fault => rfl
    | ok value => cases bindFrom params (column + 1) .outside r <;> rfl
  | case9 column start digits c r hne ih =>
    rw [BindMode.shift, bindFrom_inside_cons, if_neg hne, bindFrom_inside_cons, if_neg hne,
      Nat.add_right_comm, ← ih]
    rfl

/-! ### Where no piece begins -/

/-- No piece stands at the beginning of a text. -/
def NoPiece (params : List String) (text : List Char) : Prop :=
  ∀ piece value rest, Piece params piece value → text ≠ piece ++ rest

/-- Pieces can be taken off a text until none begins there any more. -/
theorem exists_noPiece (params : List String) (n : Nat) :
  ∀ {text : List Char}, text.length ≤ n →
    ∃ front value rest, text = front ++ rest ∧ Pieces params front value ∧ NoPiece params rest
  := by
  induction n with
  | zero =>
    intro text hlength
    obtain rfl := List.length_eq_zero_iff.mp (Nat.le_zero.mp hlength)
    refine ⟨[], [], [], rfl, .nil, ?_⟩
    intro piece value rest hpiece heq
    obtain ⟨rfl, -⟩ := List.append_eq_nil_iff.mp heq.symm
    exact absurd hpiece.length_pos (by simp)
  | succ n ih =>
    intro text hlength
    by_cases hnone : NoPiece params text
    · exact ⟨[], [], text, rfl, .nil, hnone⟩
    · simp only [NoPiece, not_forall, not_not] at hnone
      obtain ⟨piece, value, more, hpiece, rfl⟩ := hnone
      have hpos := hpiece.length_pos
      rw [List.length_append] at hlength
      have hmore : more.length ≤ n := by omega
      obtain ⟨front, later, rest, rfl, hfront, hrest⟩ := ih hmore
      exact ⟨piece ++ front, value ++ later, rest, by rw [List.append_assoc],
        .cons hpiece hfront, hrest⟩

section

variable {params : List String}

theorem takeWhile_digits {digits : List Char} (h : '}' ∉ digits) (rest : List Char) :
  (digits ++ '}' :: rest).takeWhile (· ≠ '}') = digits
  := by
  have hne : ∀ c ∈ digits, decide (c ≠ '}') = true := by
    intro c hc
    rw [decide_eq_true_iff]
    rintro rfl
    exact h hc
  rw [List.takeWhile_append_of_pos hne]
  simp

/-- The digits of a placeholder end at the first closing brace. -/
theorem StartsPlaceholder.of_close {index : Nat} {digits rest : List Char}
    (h : StartsPlaceholder index ('{' :: (digits ++ '}' :: rest))) (hclose : '}' ∉ digits) :
  unsignedWord? digits = some index
  := by
  obtain ⟨digits', rest', ⟨hne, hdigits⟩, hvalue, hlimit, heq⟩ := h
  have hclose' : '}' ∉ digits' := fun hmem => absurd (hdigits _ hmem) (by decide)
  obtain rfl : digits = digits' := by
    rw [← takeWhile_digits hclose rest, (List.cons.inj heq).2, takeWhile_digits hclose' rest']
  rw [unsignedWord?_eq_some_iff, decimal?]
  exact ⟨by simpa [hne] using ⟨hdigits, hvalue⟩, hlimit⟩

/-- Digits that denote a number that fits 64 bits make a placeholder. -/
theorem startsPlaceholder_of_unsignedWord? {digits : List Char} {index : Nat}
    (h : unsignedWord? digits = some index) (rest : List Char) :
  StartsPlaceholder index ('{' :: (digits ++ '}' :: rest))
  := by
  rw [unsignedWord?_eq_some_iff, decimal?] at h
  obtain ⟨⟨hdigits, hvalue⟩, hlimit⟩ : ((digits ≠ [] ∧ ∀ c ∈ digits, c.isDigit) ∧
      valueOfDigits digits = index) ∧ index < wordLimit := by simpa using h
  exact ⟨digits, rest, hdigits, hvalue, hlimit, rfl⟩

/-- A placeholder that no piece is made of refers to an argument that was not given, or its digits
denote no number that fits 64 bits. -/
theorem argument_eq_error {digits rest : List Char} (hclose : '}' ∉ digits)
    (h : NoPiece params ('{' :: (digits ++ '}' :: rest))) (column : Nat) :
  ∃ fault, FaultAt params column ('{' :: (digits ++ '}' :: rest)) fault ∧
    argument params column digits = .error fault
  := by
  cases hread : argument params column digits with
  | ok value =>
    obtain ⟨⟨hne, hdigits⟩, hlimit, given, hgiven, -⟩ := argument_eq_ok_iff.mp hread
    exact absurd (by simp) (h _ _ rest (.placeholder hne hdigits hlimit hgiven))
  | error fault =>
    use fault
    refine ⟨?_, rfl⟩
    rw [argument] at hread
    split at hread
    · rename_i hindex
      obtain rfl := Except.error.inj hread
      apply FaultAt.malformed
      intro index hstarts
      rw [hstarts.of_close hclose] at hindex
      cases hindex
    · rename_i index hindex
      split at hread
      · rename_i hvalue
        obtain rfl := Except.error.inj hread
        exact .outOfRange (startsPlaceholder_of_unsignedWord? hindex rest)
          (List.getElem?_eq_none_iff.mp hvalue)
      · cases hread

/-- Where no piece begins, although the text goes on, a brace stands, and the fault is there. -/
theorem NoPiece.bindFrom_eq_error {text : List Char} (h : NoPiece params text) (hne : text ≠ [])
    (column : Nat) :
  (text.head? = some '{' ∨ text.head? = some '}') ∧
  ∃ fault, FaultAt params column text fault ∧
    bindFrom params column .outside text = .error fault
  := by
  obtain ⟨c, r, rfl⟩ := List.exists_cons_of_ne_nil hne
  by_cases hopen : c = '{'
  · subst hopen
    refine ⟨.inl rfl, ?_⟩
    have hdouble : r.head? ≠ some '{' := by
      intro hhead
      obtain ⟨rest, rfl⟩ := List.head?_eq_some_iff.mp hhead
      exact h _ _ rest .opening rfl
    rw [bindFrom_open params column hdouble]
    by_cases hclose : '}' ∈ r
    · obtain ⟨digits, rest, rfl, hdigits⟩ := List.eq_append_cons_of_mem hclose
      obtain ⟨fault, hfault, hread⟩ := argument_eq_error hdigits h column
      use fault, hfault
      rw [bindFrom_inside params hdigits, List.nil_append, hread]
      rfl
    · use .malformed column
      refine ⟨.malformed ?_, bindFrom_unclosed params hclose column [] (column + 1)⟩
      rintro index ⟨digits, rest, -, -, -, heq⟩
      apply hclose
      rw [(List.cons.inj heq).2]
      simp
  · by_cases hclose : c = '}'
    · subst hclose
      refine ⟨.inr rfl, .malformed column, .malformed ?_, ?_⟩
      · rintro index ⟨digits, rest, -, -, -, heq⟩
        cases heq
      · apply bindFrom_close
        intro hhead
        obtain ⟨rest, rfl⟩ := List.head?_eq_some_iff.mp hhead
        exact h _ _ rest .closing rfl
    · exact absurd rfl (h _ _ r (.plain hopen hclose))

end

/-! ### The longest text that can be read -/

section

variable {params : List String}

/-- The arguments can be put into a line exactly if it is made of pieces. -/
theorem exists_bind_iff {line : String} :
  (∃ value, bind params line = .ok value) ↔ ∃ value, Pieces params line.toList value
  := by
  rw [bind, bindChars]
  constructor
  · rintro ⟨value, h⟩
    cases hread : bindFrom params 1 .outside line.toList with
    | error fault =>
      rw [hread] at h
      cases h
    | ok value => exact ⟨value, pieces_of_bindFrom _ (Nat.le_refl _) hread⟩
  · rintro ⟨value, h⟩
    rw [h.bindFrom_eq]
    exact ⟨_, rfl⟩

/-- Pieces end where no piece begins any more. -/
theorem Pieces.length_le {front value rest other later : List Char}
    (h : Pieces params front value) (hnone : NoPiece params rest)
    (hother : Pieces params other later) (hbegins : other <+: front ++ rest) :
  other.length ≤ front.length
  := by
  obtain hle | hge := List.prefix_or_prefix_of_prefix hbegins (List.prefix_append front rest)
  · exact hle.length_le
  · obtain ⟨more, rfl⟩ := hge
    by_cases hmore : more = []
    · simp [hmore]
    · obtain ⟨behind, rfl⟩ := (List.prefix_append_right_inj front).mp hbegins
      have hread := hother.bindFrom_eq 1
      rw [h.bindFrom_append] at hread
      cases hlater : bindFrom params (1 + (String.ofList front).utf8ByteSize) .outside more with
      | error fault =>
        rw [hlater] at hread
        cases hread
      | ok text =>
        obtain ⟨piece, given, remaining, -, -, hpiece, rfl, -⟩ :=
          exists_piece_of_bindFrom hmore hlater
        exact absurd (List.append_assoc _ _ _) (hnone piece given _ hpiece)

/-- The longest text that can be read ends where no piece begins any more, -/
theorem Pieces.longestRead {front value rest : List Char} {line : String}
    (h : Pieces params front value) (hnone : NoPiece params rest)
    (hline : line.toList = front ++ rest) :
  LongestRead params line (String.ofList front)
  := by
  constructor
  · rw [String.toList_ofList, hline]
    apply List.prefix_append
  · exact exists_bind_iff.mpr ⟨value, by rwa [String.toList_ofList]⟩
  · intro other hbegins hreads
    obtain ⟨later, hother⟩ := exists_bind_iff.mp hreads
    rw [hline] at hbegins
    have hle := h.length_le hnone hother hbegins
    rwa [← String.length_toList, ← String.length_toList, String.toList_ofList]

/-- and there is only one that is the longest. -/
theorem LongestRead.unique {line front other : String} (h : LongestRead params line front)
    (h' : LongestRead params line other) :
  front = other
  := by
  have hle := h.longest other h'.isPrefix h'.reads
  have hge := h'.longest front h.isPrefix h.reads
  have hlength : front.toList.length = other.toList.length := by
    rw [String.length_toList, String.length_toList]
    apply Nat.le_antisymm hge hle
  apply String.toList_inj.mp
  obtain hbegins | hbegins := List.prefix_or_prefix_of_prefix h.isPrefix h'.isPrefix
  · exact hbegins.eq_of_length hlength
  · exact (hbegins.eq_of_length hlength.symm).symm

end

/-- A line into which the arguments cannot be put is at fault behind the longest text at its
beginning into which they can, which is made of pieces: a brace stands there, and either a
placeholder for an argument that was not given begins there, or no placeholder at all, and then the
fault tells the column. A line into which the arguments can be put makes no difference to what
follows it, except for the column of a fault there. -/
theorem bind_faultAt (params : List String) (line : String) :
  (∀ fault, bind params line = .error fault →
    (∃ front, LongestRead params line front) ∧
    ∀ front, LongestRead params line front →
      ∃ value rest, Pieces params front.toList value ∧ line.toList = front.toList ++ rest ∧
        (rest.head? = some '{' ∨ rest.head? = some '}') ∧
        FaultAt params (front.utf8ByteSize + 1) rest fault) ∧
  ∀ text, bind params line = .ok text → ∀ more,
    bind params (line ++ more) = match bind params more with
      | .ok later => .ok (text ++ later)
      | .error fault => .error (fault.shift line.utf8ByteSize)
  := by
  constructor
  · intro fault hfault
    obtain ⟨front, value, rest, hline, hpieces, hnone⟩ :=
      exists_noPiece params line.toList.length (Nat.le_refl line.toList.length)
    have hlongest := hpieces.longestRead hnone hline
    refine ⟨⟨_, hlongest⟩, ?_⟩
    intro front' hfront'
    obtain rfl := hlongest.unique hfront'
    rw [bind, bindChars, hline, hpieces.bindFrom_append, Nat.add_comm 1] at hfault
    have hne : rest ≠ [] := by
      rintro rfl
      cases hfault
    obtain ⟨hhead, fault', hat, hread⟩ := hnone.bindFrom_eq_error hne
      ((String.ofList front).utf8ByteSize + 1)
    rw [hread] at hfault
    obtain rfl := Except.error.inj hfault
    exact ⟨value, rest, by rwa [String.toList_ofList], by rwa [String.toList_ofList], hhead, hat⟩
  · intro text htext more
    obtain ⟨value, hpieces⟩ := exists_bind_iff.mp ⟨text, htext⟩
    have hvalue : String.ofList value = text := by
      rw [bind, bindChars, hpieces.bindFrom_eq] at htext
      exact Except.ok.inj htext
    have hshift := bindFrom_shift params line.utf8ByteSize more.toList 1 .outside
    rw [bind, bindChars, String.toList_append, hpieces.bindFrom_append, String.ofList_toList,
      ← hvalue, bind, bindChars]
    rw [BindMode.shift] at hshift
    rw [hshift]
    cases bindFrom params 1 .outside more.toList with
    | error fault => rfl
    | ok later => simp [Except.map, Except.mapError]

/-- A placeholder for an argument that was not given, behind a character of two bytes, and a brace
that is not closed behind a text of five bytes. -/
theorem bind_faultAt_accent :
  (∃ front, LongestRead ["boss"] "é\x7b1\x7d\x7d" front ∧
    ∃ rest, FaultAt ["boss"] (front.utf8ByteSize + 1) rest (.outOfRange 1 1)) ∧
  bind ["boss"] ("é\x7b0\x7d" ++ "!\x7b") = .error (.malformed 7)
  := by
  constructor
  · obtain ⟨⟨front, hfront⟩, hall⟩ :=
      (bind_faultAt ["boss"] "é\x7b1\x7d\x7d").1 (.outOfRange 1 1) (by decide)
    obtain ⟨value, rest, -, -, -, hfault⟩ := hall front hfront
    exact ⟨front, hfront, rest, hfault⟩
  · rw [(bind_faultAt ["boss"] "é\x7b0\x7d").2 "éboss" (by decide) "!\x7b"]
    decide

end CommandTimelines.Script
