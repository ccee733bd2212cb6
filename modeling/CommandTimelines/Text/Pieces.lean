/-!
# Cutting texts and putting them together

`pieces sep` cuts a text at every occurrence of a character, and `lines` cuts it into
lines. A text of several lines ends each line but the last with a line feed, possibly after
a carriage return; a line feed at the very end opens no further line.
-/

namespace CommandTimelines.Text

/-- The pieces of a text between the occurrences of `sep`. There is always at least one. -/
def pieces (sep : Char) : List Char → List (List Char)
  | [] => [[]]
  | c :: r =>
    if c = sep then [] :: pieces sep r
    else match pieces sep r with
      | [] => [[c]]
      | p :: ps => (c :: p) :: ps

/-- A line without the carriage return it may end in. -/
def dropReturn (line : List Char) : List Char :=
  if line.getLast? = some '\r' then line.dropLast else line

/-- The lines of a text already cut at its line feeds: all but the last piece were ended by
a line feed, and the last one is a line only if something stands in it. -/
def linesOfPieces : List (List Char) → List (List Char)
  | [] => []
  | [p] => if p = [] then [] else [p]
  | p :: ps => dropReturn p :: linesOfPieces ps

/-- The lines of a text. -/
def lines (s : List Char) : List (List Char) := linesOfPieces (pieces '\n' s)

/-- The pieces of a text between the occurrences of `sep`, as strings. -/
def splitAt (sep : Char) (s : String) : List String :=
  (pieces sep s.toList).map String.ofList

/-- The lines of a text, as strings. -/
def splitLines (s : String) : List String := (lines s.toList).map String.ofList

/-- Texts put together with `sep` between them. -/
def join (sep : String) (parts : List String) : String := sep.intercalate parts

/-- A list put in the order `le` by insertion. Elements that `le` holds equal keep their
order. -/
def sortBy {α : Type} (le : α → α → Bool) : List α → List α
  | [] => []
  | x :: xs => insert x (sortBy le xs)
where
  /-- An element put before the first one that it is not greater than. -/
  insert (x : α) : List α → List α
    | [] => [x]
    | y :: ys => if le x y then x :: y :: ys else y :: insert x ys

/-- Texts in the order of their code points, which is also the order of their UTF-8 bytes. -/
def sort (texts : List String) : List String := sortBy (fun s t => decide (s ≤ t)) texts

theorem pieces_ne_nil (sep : Char) (s : List Char) :
  pieces sep s ≠ []
  := by
  induction s with
  | nil => simp [pieces]
  | cons c r ih =>
    unfold pieces
    split
    · simp
    · split <;> simp

/-- A text without the separator is one piece. -/
theorem pieces_of_not_mem {sep : Char} {s : List Char} (h : sep ∉ s) :
  pieces sep s = [s]
  := by
  induction s with
  | nil => rfl
  | cons c r ih =>
    have hc : c ≠ sep := fun e => h (e ▸ List.mem_cons_self)
    have hr : sep ∉ r := fun m => h (List.mem_cons_of_mem c m)
    simp [pieces, hc, ih hr]

/-- A separator ends a piece. -/
theorem pieces_append_sep (sep : Char) (s t : List Char) :
  pieces sep (s ++ sep :: t) = pieces sep s ++ pieces sep t
  := by
  induction s with
  | nil => simp [pieces]
  | cons c r ih =>
    by_cases hc : c = sep
    · simp [pieces, hc, ih]
    · rcases hp : pieces sep r with _ | ⟨p, ps⟩
      · exact absurd hp (pieces_ne_nil sep r)
      · simp [pieces, hc, ih, hp]

/-- Sorting keeps the elements. -/
theorem sortBy_perm {α : Type} (le : α → α → Bool) (xs : List α) :
  (sortBy le xs).Perm xs
  := by
  have inserted : ∀ (x : α) (ys : List α), (sortBy.insert le x ys).Perm (x :: ys) := by
    intro x ys
    induction ys with
    | nil => exact List.Perm.refl _
    | cons y ys ih =>
      unfold sortBy.insert
      split
      · exact List.Perm.refl _
      · exact (ih.cons y).trans (List.Perm.swap x y ys)
  induction xs with
  | nil => exact List.Perm.refl _
  | cons x xs ih => exact (inserted x _).trans (ih.cons x)

end CommandTimelines.Text
