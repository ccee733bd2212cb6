import CommandTimelines.Proofs.Rendering

/-!
# Words between quotes

Whatever strings are to be handed over as the words of a line, they can be: each is written between
quotes, with a backslash before every quote and every backslash in it, and blanks may stand before,
between and behind them (`words_row`). Nothing in a string is taken for the end of a word: neither a
blank, nor a quote or a backslash of its own.
-/

namespace CommandTimelines.Script

open Text

namespace Words

/-- Strings between quotes, each with a gap before it. -/
def row (items : List (List Char × String)) : List Char :=
  items.flatMap fun (gap, word) => gap ++ quoted word.toList

/-- Blanks between words are passed over. -/
theorem splitFrom_blanks {gap : List Char} (h : gap.all isBlank) (r : List Char) :
  splitFrom [] false (gap ++ r) = splitFrom [] false r
  := by
  induction gap with
  | nil => rfl
  | cons c gap ih =>
    rw [List.all_cons, Bool.and_eq_true] at h
    obtain ⟨hc, hgap⟩ := h
    have hne : ∀ d, isBlank d = false → c ≠ d := by
      rintro d hd rfl
      rw [hd] at hc
      cases hc
    rw [List.cons_append, splitFrom_cons (hne _ (by decide)) (hne _ (by decide)), if_pos hc,
      ih hgap]
    rfl

theorem split_row {items : List (List Char × String)}
    (hgaps : ∀ item ∈ items, item.1.all isBlank) (rest : List Char) :
  splitFrom [] false (row items ++ rest)
    = items.map (·.2.toList) ++ splitFrom [] false rest
  := by
  induction items with
  | nil => rfl
  | cons item items ih =>
    obtain ⟨hgap, hgaps⟩ := List.forall_mem_cons.mp hgaps
    rw [row, List.flatMap_cons, List.append_assoc, List.append_assoc, splitFrom_blanks hgap,
      splitFrom_quoted, List.map_cons, List.cons_append]
    exact congrArg (item.2.toList :: ·) (ih hgaps)

end Words

/-- Strings that are written between quotes, with blanks before, between and behind them, are the
words that are read. Between two quotes there need not even be a blank. -/
theorem words_row (items : List (List Char × String)) (after : List Char)
    (hgaps : ∀ item ∈ items, item.1.all isBlank) (hafter : after.all isBlank) :
  words (String.ofList (Words.row items ++ after)) = items.map (·.2)
  := by
  have hend : Words.splitFrom [] false after = [] := by
    rw [← List.append_nil after, Words.splitFrom_blanks hafter]
    rfl
  rw [words, String.toList_ofList, Words.split, Words.split_row hgaps, hend, List.append_nil,
    List.map_map]
  apply List.map_congr_left
  intro item _
  apply String.ofList_toList

/-- An empty string, one that ends in a backslash, and one of a quote and a line feed, with a tab
and a wide space between them. -/
theorem words_row_empty :
  words (String.ofList
    (Words.row [([], ""), (['\t'], "c:\\"), (['\u3000', ' '], "\"\n")] ++ [' ']))
    = ["", "c:\\", "\"\n"]
  := words_row [([], ""), (['\t'], "c:\\"), (['\u3000', ' '], "\"\n")] [' '] (by decide)
    (by decide)

end CommandTimelines.Script
