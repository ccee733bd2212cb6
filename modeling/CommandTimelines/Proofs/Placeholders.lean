import CommandTimelines.Script.Placeholder
import Mathlib.Data.List.Basic

/-!
# The grammar of placeholders

A line is made of pieces: a character that is no brace, a doubled brace, or a placeholder that
refers to an argument that was given (`Piece`). The arguments can be put into a line exactly if it
is a concatenation of pieces, and then the result is the concatenation of what the pieces stand
for (`bind_eq_ok_iff`). So what is put in is not read again, and runs of braces pair off from the
left.
-/

namespace CommandTimelines.Script

open Text

/-- `Piece params text value`: the text is a piece of a line, and stands for `value` if the
arguments are `params`. -/
inductive Piece (params : List String) : List Char → List Char → Prop
  | plain {c : Char} (hopen : c ≠ '{') (hclose : c ≠ '}') : Piece params [c] [c]
  | opening : Piece params ['{', '{'] ['{']
  | closing : Piece params ['}', '}'] ['}']
  /-- The digits may have leading zeros. -/
  | placeholder {digits : List Char} {value : String} (hne : digits ≠ [])
      (hdigits : ∀ c ∈ digits, c.isDigit) (hlimit : valueOfDigits digits < wordLimit)
      (hvalue : params[valueOfDigits digits]? = some value) :
      Piece params ('{' :: digits ++ ['}']) value.toList

/-- `Pieces params text value`: the text is a concatenation of pieces, and `value` is the
concatenation of what they stand for. -/
def Pieces (params : List String) (text value : List Char) : Prop :=
  ∃ pieces : List (List Char × List Char), (∀ p ∈ pieces, Piece params p.1 p.2) ∧
    pieces.flatMap (·.1) = text ∧ pieces.flatMap (·.2) = value

namespace Pieces

variable {params : List String}

theorem nil :
  Pieces params [] []
  := ⟨[], by simp, rfl, rfl⟩

theorem cons {text value text' value' : List Char} (hpiece : Piece params text value)
    (h : Pieces params text' value') :
  Pieces params (text ++ text') (value ++ value')
  := by
  obtain ⟨pieces, hpieces, rfl, rfl⟩ := h
  use (text, value) :: pieces
  simpa [hpiece] using hpieces

end Pieces

/-! ### Arguments -/

/-- The digits of a placeholder refer to an argument if they are digits, denote a number that fits
64 bits, and an argument with this number was given. -/
theorem argument_eq_ok_iff {params : List String} {column : Nat} {digits value : List Char} :
  argument params column digits = .ok value ↔
    (digits ≠ [] ∧ ∀ c ∈ digits, c.isDigit) ∧ valueOfDigits digits < wordLimit ∧
      ∃ given, params[valueOfDigits digits]? = some given ∧ given.toList = value
  := by
  have hword : ∀ index, unsignedWord? digits = some index ↔
      (digits ≠ [] ∧ ∀ c ∈ digits, c.isDigit) ∧ valueOfDigits digits = index ∧
        index < wordLimit := by
    intro index
    rw [unsignedWord?_eq_some_iff, decimal?, ← and_assoc]
    simp
  constructor
  · intro h
    rw [argument] at h
    split at h
    · cases h
    · rename_i index hindex
      obtain ⟨hdigits, rfl, hlimit⟩ := (hword index).mp hindex
      split at h
      · cases h
      · rename_i given hgiven
        exact ⟨hdigits, hlimit, given, hgiven, Except.ok.inj h⟩
  · rintro ⟨hdigits, hlimit, given, hgiven, rfl⟩
    simp only [argument, (hword _).mpr ⟨hdigits, rfl, hlimit⟩, hgiven]

/-! ### At one character -/

section

variable (params : List String) (column start : Nat) (digits : List Char) {c : Char}
  {rest : List Char}

theorem bindFrom_outside_nil :
  bindFrom params column .outside [] = .ok []
  := rfl

theorem bindFrom_inside_nil :
  bindFrom params column (.inside start digits) [] = .error (.malformed start)
  := rfl

theorem bindFrom_inside_cons :
  bindFrom params column (.inside start digits) (c :: rest)
    = if c = '}' then do
        let value ← argument params start digits
        let text ← bindFrom params (column + 1) .outside rest
        return value ++ text
      else bindFrom params (column + c.utf8Size) (.inside start (digits ++ [c])) rest
  := rfl

/-- What is read at a character that is not a doubled brace. -/
theorem bindFrom_single (hopen : ∀ r, c = '{' → rest = '{' :: r → False)
    (hclose : ∀ r, c = '}' → rest = '}' :: r → False) :
  bindFrom params column .outside (c :: rest)
    = if c = '{' then bindFrom params (column + 1) (.inside column []) rest
      else if c = '}' then .error (.malformed column)
      else do
        let text ← bindFrom params (column + c.utf8Size) .outside rest
        return c :: text
  := bindFrom.eq_4 params column c rest hopen hclose

theorem bindFrom_doubled_open :
  bindFrom params column .outside ('{' :: '{' :: rest)
    = (bindFrom params (column + 2) .outside rest).map (['{'] ++ ·)
  := rfl

theorem bindFrom_doubled_close :
  bindFrom params column .outside ('}' :: '}' :: rest)
    = (bindFrom params (column + 2) .outside rest).map (['}'] ++ ·)
  := rfl

end

/-! ### Inside of a placeholder -/

theorem utf8ByteSize_cons (c : Char) (r : List Char) :
  (String.ofList (c :: r)).utf8ByteSize = c.utf8Size + (String.ofList r).utf8ByteSize
  := by
  rw [String.ofList_cons, String.utf8ByteSize_append, String.utf8ByteSize_singleton]

section

variable (params : List String) {more : List Char} (h : '}' ∉ more) (start : Nat)

include h

/-- What is read inside of a placeholder is everything up to the next closing brace. -/
theorem bindFrom_inside (digits rest : List Char) :
  ∀ column, bindFrom params column (.inside start digits) (more ++ '}' :: rest) = (do
    let value ← argument params start (digits ++ more)
    let text ← bindFrom params (column + (String.ofList more).utf8ByteSize + 1) .outside rest
    return value ++ text)
  := by
  induction more generalizing digits with
  | nil =>
    intro column
    rw [List.nil_append, List.append_nil, bindFrom_inside_cons, if_pos rfl]
    rfl
  | cons c more ih =>
    intro column
    obtain ⟨hc, hmore⟩ := not_or.mp (mt List.mem_cons.mpr h)
    rw [List.cons_append, bindFrom_inside_cons, if_neg (Ne.symm hc), ih hmore, List.append_assoc,
      utf8ByteSize_cons, ← Nat.add_assoc]
    rfl

/-- A placeholder that is not closed is a fault at its opening brace. -/
theorem bindFrom_unclosed (digits : List Char) :
  ∀ column, bindFrom params column (.inside start digits) more = .error (.malformed start)
  := by
  induction more generalizing digits with
  | nil =>
    intro column
    rw [bindFrom_inside_nil]
  | cons c more ih =>
    intro column
    obtain ⟨hc, hmore⟩ := not_or.mp (mt List.mem_cons.mpr h)
    rw [bindFrom_inside_cons, if_neg (Ne.symm hc), ih hmore]

end

/-! ### At a brace -/

section

variable (params : List String) {rest : List Char} (column : Nat)

/-- A brace that is not doubled opens a placeholder. -/
theorem bindFrom_open (h : rest.head? ≠ some '{') :
  bindFrom params column .outside ('{' :: rest)
    = bindFrom params (column + 1) (.inside column []) rest
  := by
  have hdouble : ∀ r, '{' = '{' → rest = '{' :: r → False := by
    rintro r - rfl
    exact h rfl
  rw [bindFrom_single params column hdouble (fun _ hc _ => absurd hc (by decide)), if_pos rfl]

/-- A closing brace outside of a placeholder is a fault if it is not doubled. -/
theorem bindFrom_close (h : rest.head? ≠ some '}') :
  bindFrom params column .outside ('}' :: rest) = .error (.malformed column)
  := by
  have hdouble : ∀ r, '}' = '}' → rest = '}' :: r → False := by
    rintro r - rfl
    exact h rfl
  rw [bindFrom_single params column (fun _ hc _ => absurd hc (by decide)) hdouble,
    if_neg (by decide), if_pos rfl]

theorem bindFrom_plain {c : Char} (hopen : c ≠ '{') (hclose : c ≠ '}') :
  bindFrom params column .outside (c :: rest)
    = (bindFrom params (column + c.utf8Size) .outside rest).map ([c] ++ ·)
  := by
  rw [bindFrom_single params column (fun _ hc _ => hopen hc) (fun _ hc _ => hclose hc),
    if_neg hopen, if_neg hclose]
  rfl

end

/-! ### Piece by piece -/

/-- A piece at the beginning of a line is read, and after it what follows. -/
theorem Piece.bindFrom_append {params : List String} {text value : List Char}
    (h : Piece params text value) (rest : List Char) (column : Nat) :
  bindFrom params column .outside (text ++ rest)
    = (bindFrom params (column + (String.ofList text).utf8ByteSize) .outside rest).map
      (value ++ ·)
  := by
  cases h with
  | @plain c hopen hclose =>
    rw [utf8ByteSize_cons]
    exact bindFrom_plain params column hopen hclose
  | opening => exact bindFrom_doubled_open params column
  | closing => exact bindFrom_doubled_close params column
  | @placeholder digits value hne hdigits hlimit hvalue =>
    have hclose : '}' ∉ digits := fun hmem => absurd (hdigits _ hmem) (by decide)
    have hopen : (digits ++ '}' :: rest).head? ≠ some '{' := by
      intro hhead
      rw [List.head?_append_of_ne_nil _ hne] at hhead
      exact absurd (hdigits _ (List.mem_of_mem_head? hhead)) (by decide)
    have hargument : argument params column digits = .ok value.toList :=
      argument_eq_ok_iff.mpr ⟨⟨hne, hdigits⟩, hlimit, value, hvalue, rfl⟩
    have hsize : column + (String.ofList ('{' :: digits ++ ['}'])).utf8ByteSize
        = column + 1 + (String.ofList digits).utf8ByteSize + 1 := by
      rw [List.cons_append, utf8ByteSize_cons, String.ofList_append,
        String.utf8ByteSize_append, ← Nat.add_assoc, ← Nat.add_assoc]
      rfl
    rw [hsize, List.cons_append, List.cons_append, List.append_assoc, List.singleton_append,
      bindFrom_open params column hopen, bindFrom_inside params hclose, List.nil_append,
      hargument]
    rfl

/-- Pieces at the beginning of a line are read, and after them what follows. -/
theorem Pieces.bindFrom_append {params : List String} {text value : List Char}
    (h : Pieces params text value) (rest : List Char) :
  ∀ column, bindFrom params column .outside (text ++ rest)
    = (bindFrom params (column + (String.ofList text).utf8ByteSize) .outside rest).map
      (value ++ ·)
  := by
  obtain ⟨pieces, hpieces, rfl, rfl⟩ := h
  induction pieces with
  | nil =>
    intro column
    exact (congrFun Except.map_id _).symm
  | cons piece later ih =>
    intro column
    obtain ⟨hpiece, hlater⟩ := List.forall_mem_cons.mp hpieces
    rw [List.flatMap_cons, List.flatMap_cons, List.append_assoc, hpiece.bindFrom_append, ih hlater,
      String.ofList_append, String.utf8ByteSize_append, Nat.add_assoc]
    cases bindFrom params _ .outside rest with
    | error fault => rfl
    | ok text => simp [Except.map]

/-- Pieces are read to what they stand for. -/
theorem Pieces.bindFrom_eq {params : List String} {text value : List Char}
    (h : Pieces params text value) (column : Nat) :
  bindFrom params column .outside text = .ok value
  := by
  have hread := h.bindFrom_append [] column
  rw [List.append_nil] at hread
  rw [hread, bindFrom_outside_nil, Except.map, List.append_nil]

/-- What can be read begins with a piece, and after it the rest can be read. -/
theorem exists_piece_of_bindFrom {params : List String} {text value : List Char} {column : Nat}
    (hne : text ≠ []) (h : bindFrom params column .outside text = .ok value) :
  ∃ piece given rest later next, Piece params piece given ∧ text = piece ++ rest ∧
    bindFrom params next .outside rest = .ok later ∧ value = given ++ later
  := by
  -- In each case the rest is read first, and what the piece stands for is put before it.
  have hmap : ∀ {x : Except BindFault (List Char)} {given : List Char},
      x.map (given ++ ·) = .ok value → ∃ later, x = .ok later ∧ value = given ++ later := by
    intro x given hx
    cases x with
    | error fault => cases hx
    | ok later => exact ⟨later, rfl, (Except.ok.inj hx).symm⟩
  obtain ⟨c, r, rfl⟩ := List.exists_cons_of_ne_nil hne
  by_cases hopen : c = '{'
  · subst hopen
    by_cases hdouble : r.head? = some '{'
    · obtain ⟨rest, rfl⟩ := List.head?_eq_some_iff.mp hdouble
      rw [bindFrom_doubled_open] at h
      obtain ⟨later, hlater, rfl⟩ := hmap h
      exact ⟨_, _, rest, later, _, .opening, rfl, hlater, rfl⟩
    · rw [bindFrom_open params column hdouble] at h
      by_cases hclose : '}' ∈ r
      · obtain ⟨digits, rest, rfl, hdigits⟩ := List.eq_append_cons_of_mem hclose
        rw [bindFrom_inside params hdigits, List.nil_append] at h
        cases hargument : argument params column digits with
        | error fault =>
          rw [hargument] at h
          cases h
        | ok given =>
          rw [hargument] at h
          obtain ⟨⟨hdigits, hall⟩, hlimit, given, hgiven, rfl⟩ := argument_eq_ok_iff.mp hargument
          obtain ⟨later, hlater, rfl⟩ := hmap h
          exact ⟨_, _, rest, later, _, .placeholder hdigits hall hlimit hgiven, by simp, hlater,
            rfl⟩
      · rw [bindFrom_unclosed params hclose] at h
        cases h
  · by_cases hclose : c = '}'
    · subst hclose
      by_cases hdouble : r.head? = some '}'
      · obtain ⟨rest, rfl⟩ := List.head?_eq_some_iff.mp hdouble
        rw [bindFrom_doubled_close] at h
        obtain ⟨later, hlater, rfl⟩ := hmap h
        exact ⟨_, _, rest, later, _, .closing, rfl, hlater, rfl⟩
      · rw [bindFrom_close params column hdouble] at h
        cases h
    · rw [bindFrom_plain params column hopen hclose] at h
      obtain ⟨later, hlater, rfl⟩ := hmap h
      exact ⟨_, _, r, later, _, .plain hopen hclose, rfl, hlater, rfl⟩

theorem Piece.length_pos {params : List String} {text value : List Char}
    (h : Piece params text value) :
  0 < text.length
  := by
  cases h <;> simp

/-- What can be read is made of pieces. -/
theorem pieces_of_bindFrom {params : List String} (n : Nat) :
  ∀ {text value : List Char} {column : Nat}, text.length ≤ n →
    bindFrom params column .outside text = .ok value → Pieces params text value
  := by
  -- The induction is on the length of the text, which is shorter after its first piece.
  induction n with
  | zero =>
    intro text value column hlength h
    obtain rfl := List.length_eq_zero_iff.mp (Nat.le_zero.mp hlength)
    cases h
    exact .nil
  | succ n ih =>
    intro text value column hlength h
    by_cases hne : text = []
    · subst hne
      cases h
      exact .nil
    · obtain ⟨piece, given, rest, later, next, hpiece, rfl, hrest, rfl⟩ :=
        exists_piece_of_bindFrom hne h
      have hpos := hpiece.length_pos
      rw [List.length_append] at hlength
      exact .cons hpiece (ih (by omega) hrest)

/-- The arguments can be put into a line exactly if the line is a concatenation of pieces, and then
the result is the concatenation of what these stand for. -/
theorem bind_eq_ok_iff (params : List String) (line result : String) :
  bind params line = .ok result ↔
    ∃ pieces : List (List Char × List Char), (∀ p ∈ pieces, Piece params p.1 p.2) ∧
      pieces.flatMap (·.1) = line.toList ∧ String.ofList (pieces.flatMap (·.2)) = result
  := by
  constructor
  · intro h
    rw [bind] at h
    cases hread : bindChars params line.toList with
    | error fault =>
      rw [hread] at h
      cases h
    | ok value =>
      rw [hread] at h
      obtain rfl := Except.ok.inj h
      obtain ⟨pieces, hpieces, hline, hvalue⟩ := pieces_of_bindFrom _ (Nat.le_refl _) hread
      exact ⟨pieces, hpieces, hline, by rw [hvalue]⟩
  · rintro ⟨pieces, hpieces, hline, rfl⟩
    have hread : bindChars params line.toList = .ok (pieces.flatMap (·.2)) :=
      Pieces.bindFrom_eq ⟨pieces, hpieces, hline, rfl⟩ 1
    rw [bind, hread]
    rfl

/-- Three braces before a placeholder pair off from the left, and a brace that is put in stays as it
is. -/
example : bind ["\x7bboss\x7d"] "say \x7b\x7b\x7b00\x7d\x7d\x7d" = .ok "say \x7b\x7bboss\x7d\x7d" := by
  decide

end CommandTimelines.Script
