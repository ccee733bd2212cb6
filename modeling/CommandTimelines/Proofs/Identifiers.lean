import CommandTimelines.Proofs.Spelling

/-!
# Keys as normal forms

The key of a file is one spelling chosen for all paths with the same telling pieces
(`Path.key?_eq_some_iff`). It has no other pieces than these, so it is its own key, and wherever it
is resolved it leads to a place below the folder that it is resolved against
(`Path.placeFrom_resolve`): no path with a key gets out of the folder that timelines are kept in.

What a path is written as is said here of any pieces that make it up (`Path.Spells`), and where it
leads by walking along it (`Path.placeFrom`).
-/

namespace CommandTimelines.Path

open Text

/-- `Spells path ps`: the path is the pieces `ps`, none of which has a slash, with single slashes
between them. -/
structure Spells (path : List Char) (ps : List (List Char)) : Prop where
  ne_nil : ps ≠ []
  slash_not_mem : ∀ p ∈ ps, '/' ∉ p
  eq_ofPieces : path = ofPieces ps

/-- Every path is made up of pieces in one way. -/
theorem spells_iff {path : List Char} {ps : List (List Char)} :
  Spells path ps ↔ ps = pieces '/' path
  := by
  constructor
  · rintro ⟨hne, hslash, rfl⟩
    rw [ofPieces, Script.pieces_intercalate hne hslash]
  · rintro rfl
    exact ⟨pieces_ne_nil '/' path, fun p => not_mem_of_mem_pieces,
      (intercalate_pieces '/' path).symm⟩

/-- Pieces without those that lead nowhere. -/
def leading (ps : List (List Char)) : List (List Char) := ps.filter fun p => p ≠ [] ∧ p ≠ ['.']

theorem isIdle_eq_false_iff {piece : List Char} :
  isIdle piece = false ↔ piece ≠ [] ∧ piece ≠ ['.']
  := by
  simp [isIdle]

theorem telling_eq_leading (path : List Char) :
  telling path = leading (pieces '/' path)
  := by
  apply List.filter_congr
  intro piece _
  cases hidle : isIdle piece with
  | true =>
    have hnot : ¬ (piece ≠ [] ∧ piece ≠ ['.']) := by
      rw [← isIdle_eq_false_iff, hidle]
      exact Bool.noConfusion
    rw [Bool.not_true, decide_eq_false hnot]
  | false => rw [Bool.not_false, decide_eq_true (isIdle_eq_false_iff.mp hidle)]

theorem mem_telling {path piece : List Char} :
  piece ∈ telling path ↔ piece ∈ pieces '/' path ∧ piece ≠ [] ∧ piece ≠ ['.']
  := by
  rw [telling, List.mem_filter, Bool.not_eq_true', isIdle_eq_false_iff]

/-- The files that have a key, and their keys. -/
theorem key?_eq_some_iff {file key : String} :
  key? file = some key ↔
    isAbsolute file.toList = false ∧ upward ∉ pieces '/' file.toList ∧ telling file.toList ≠ [] ∧
      key.toList = ofPieces (telling file.toList)
  := by
  have hkey : key = String.ofList (ofPieces (telling file.toList))
      ↔ key.toList = ofPieces (telling file.toList) := by
    rw [← String.toList_inj, String.toList_ofList]
  simp only [key?, Option.ite_none_left_eq_some, Option.some.injEq, Bool.or_eq_true, beq_iff_eq,
    List.contains_iff_mem, not_or, Bool.not_eq_true, and_assoc, eq_comm (b := key), hkey]

/-! ### The pieces of a key -/

section

variable {file key : String} (h : key? file = some key)

include h

/-- Every piece of a key leads on, and down. -/
theorem mem_pieces_key {piece : List Char} (hpiece : piece ∈ pieces '/' key.toList) :
  piece ≠ [] ∧ piece ≠ ['.'] ∧ piece ≠ upward
  := by
  obtain ⟨-, hup, -⟩ := key?_eq_some_iff.mp h
  rw [← telling_of_key h] at hpiece
  obtain ⟨hmem, hne, hdot⟩ := mem_telling.mp hpiece
  refine ⟨hne, hdot, ?_⟩
  rintro rfl
  exact hup hmem

theorem head?_key :
  key.toList.head? ≠ some '/'
  := by
  intro hhead
  obtain ⟨rest, hrest⟩ := List.head?_eq_some_iff.mp hhead
  have hmem : [] ∈ pieces '/' key.toList := by
    rw [hrest, pieces, if_pos rfl]
    exact List.mem_cons_self
  exact (mem_pieces_key h hmem).1 rfl

theorem getLast?_key :
  key.toList.getLast? ≠ some '/'
  := by
  intro hlast
  obtain ⟨front, hfront⟩ := List.getLast?_eq_some_iff.mp hlast
  have hmem : [] ∈ pieces '/' key.toList := by
    rw [hfront, pieces_append_sep]
    exact List.mem_append_right _ (List.mem_singleton_self _)
  exact (mem_pieces_key h hmem).1 rfl

theorem isAbsolute_key :
  isAbsolute key.toList = false
  := by
  rw [isAbsolute, beq_eq_false_iff_ne]
  exact head?_key h

/-- A key tells where it leads with all of its pieces. -/
theorem telling_key :
  telling key.toList = pieces '/' key.toList
  := by
  apply List.filter_eq_self.mpr
  intro piece hpiece
  obtain ⟨hne, hdot, -⟩ := mem_pieces_key h hpiece
  rw [Bool.not_eq_true', isIdle_eq_false_iff]
  exact ⟨hne, hdot⟩

/-- A key is its own key. -/
theorem key?_key :
  key? key = some key
  := by
  apply key?_eq_some_iff.mpr
  refine ⟨isAbsolute_key h, ?_, ?_, ?_⟩
  · intro hup
    exact (mem_pieces_key h hup).2.2 rfl
  · rw [telling_key h]
    exact pieces_ne_nil '/' key.toList
  · rw [telling_key h, ofPieces, intercalate_pieces]

end

/-! ### Where paths lead -/

/-- The place next to a place that a piece of a path leads to. A place is the names of the folders
on the way to it, from the root of the file system. -/
def next (place : List (List Char)) (piece : List Char) : List (List Char) :=
  if isIdle piece then place else if piece = upward then place.dropLast else place ++ [piece]

/-- The place that a path leads to, for somebody at the place `here`. -/
def placeFrom (here : List (List Char)) (path : List Char) : List (List Char) :=
  (pieces '/' path).foldl next (if isAbsolute path then [] else here)

/-- Pieces that lead down, each of them, lead to a place below. -/
theorem foldl_next {ps : List (List Char)} (h : ∀ p ∈ ps, p ≠ [] ∧ p ≠ ['.'] ∧ p ≠ upward) :
  ∀ place, ps.foldl next place = place ++ ps
  := by
  induction ps with
  | nil =>
    intro place
    exact (List.append_nil place).symm
  | cons p ps ih =>
    intro place
    obtain ⟨⟨hne, hdot, hup⟩, hrest⟩ := List.forall_mem_cons.mp h
    have hnext : next place p = place ++ [p] := by
      rw [next, isIdle_eq_false_iff.mpr ⟨hne, hdot⟩, if_neg Bool.false_ne_true, if_neg hup]
    rw [List.foldl_cons, hnext, ih hrest, List.append_assoc]
    rfl

/-- Resolving a path against a folder means walking to the folder first. -/
theorem placeFrom_resolve_eq {path : String} (h : isAbsolute path.toList = false)
    (here : List (List Char)) (folder : String) :
  placeFrom here (resolve folder path).toList
    = (pieces '/' path.toList).foldl next (placeFrom here folder.toList)
  := by
  rw [resolve, h, Bool.false_or]
  by_cases hempty : folder = ""
  · have hnowhere : placeFrom here folder.toList = here := by
      rw [hempty]
      rfl
    rw [if_pos (by simp [hempty]), hnowhere, placeFrom, h]
    rfl
  · have hne : folder.toList ≠ [] := by simpa using hempty
    have habsolute : ∀ more, isAbsolute (folder.toList ++ more) = isAbsolute folder.toList := by
      intro more
      rw [isAbsolute, isAbsolute, List.head?_append_of_ne_nil _ hne]
    simp only [beq_iff_eq, hempty, if_false]
    split
    · rename_i hlast
      -- The slash at the end of the folder opens an empty piece, which leads nowhere.
      obtain ⟨front, hfront⟩ := List.getLast?_eq_some_iff.mp hlast
      have hfolder : pieces '/' folder.toList = pieces '/' front ++ [[]] := by
        rw [hfront, pieces_append_sep]
        rfl
      have hboth : pieces '/' (folder.toList ++ path.toList)
          = pieces '/' front ++ pieces '/' path.toList := by
        rw [hfront, List.append_assoc]
        exact pieces_append_sep '/' front path.toList
      rw [String.toList_append, placeFrom, placeFrom, habsolute, hboth, hfolder, List.foldl_append,
        List.foldl_append]
      rfl
    · have hboth : (folder ++ "/" ++ path).toList = folder.toList ++ '/' :: path.toList := by
        simp [String.toList_append]
      rw [hboth, placeFrom, placeFrom, habsolute, pieces_append_sep, List.foldl_append]

/-- A key leads to a place below the folder that it is resolved against, wherever that is. -/
theorem placeFrom_resolve {file key : String} (h : key? file = some key)
    (here : List (List Char)) (folder : String) :
  placeFrom here (resolve folder key).toList
    = placeFrom here folder.toList ++ telling file.toList
  := by
  rw [placeFrom_resolve_eq (isAbsolute_key h), foldl_next fun p => mem_pieces_key h,
    telling_of_key h]

/-! ### Normal forms -/

/-- A file has a key exactly if its path does not start with a slash, none of its pieces leads up,
and one of them leads on. The key then is the pieces that lead on, with single slashes between
them. It starts with no slash and ends with none, none of its pieces is empty, a single dot or two
dots, it is its own key, and resolved against any folder it leads to a place below that folder. Two
files have the same key exactly if the same pieces of their paths lead on. -/
theorem Spells.normalises {file : String} {ps : List (List Char)} (h : Spells file.toList ps) :
  ((key? file).isSome ↔
    file.toList.head? ≠ some '/' ∧ ['.', '.'] ∉ ps ∧ ∃ p ∈ ps, p ≠ [] ∧ p ≠ ['.']) ∧
  (∀ key, key? file = some key →
    Spells key.toList (leading ps) ∧
    key.toList.head? ≠ some '/' ∧ key.toList.getLast? ≠ some '/' ∧
    (∀ qs, Spells key.toList qs → ∀ q ∈ qs, q ≠ [] ∧ q ≠ ['.'] ∧ q ≠ ['.', '.']) ∧
    key? key = some key ∧
    ∀ (here : List (List Char)) (folder : String), ∃ names, names ≠ [] ∧
      placeFrom here (resolve folder key).toList = placeFrom here folder.toList ++ names) ∧
  ∀ (file' : String) (ps' : List (List Char)), Spells file'.toList ps' →
    ∀ key key', key? file = some key → key? file' = some key' →
      (key = key' ↔ leading ps = leading ps')
  := by
  obtain rfl := spells_iff.mp h
  rw [← telling_eq_leading]
  refine ⟨?_, ?_, ?_⟩
  · rw [Option.isSome_iff_exists]
    constructor
    · rintro ⟨key, hkey⟩
      obtain ⟨habsolute, hup, hne, -⟩ := key?_eq_some_iff.mp hkey
      obtain ⟨piece, hpiece⟩ := List.exists_mem_of_ne_nil _ hne
      rw [isAbsolute, beq_eq_false_iff_ne] at habsolute
      exact ⟨habsolute, hup, piece, mem_telling.mp hpiece⟩
    · rintro ⟨hhead, hup, piece, hpiece⟩
      use String.ofList (ofPieces (telling file.toList))
      apply key?_eq_some_iff.mpr
      refine ⟨?_, hup, List.ne_nil_of_mem (mem_telling.mpr hpiece), String.toList_ofList⟩
      rw [isAbsolute, beq_eq_false_iff_ne]
      exact hhead
  · intro key hkey
    obtain ⟨-, -, hne, -⟩ := key?_eq_some_iff.mp hkey
    refine ⟨spells_iff.mpr (telling_of_key hkey), head?_key hkey, getLast?_key hkey, ?_,
      key?_key hkey, ?_⟩
    · intro qs hqs q hq
      rw [spells_iff.mp hqs] at hq
      exact mem_pieces_key hkey hq
    · intro here folder
      exact ⟨telling file.toList, hne, placeFrom_resolve hkey here folder⟩
  · intro file' ps' h' key key' hkey hkey'
    obtain rfl := spells_iff.mp h'
    rw [← telling_eq_leading, telling_of_key hkey, telling_of_key hkey']
    constructor
    · rintro rfl
      rfl
    · intro heq
      apply String.toList_inj.mp
      rw [← intercalate_pieces '/' key.toList, heq, intercalate_pieces]

/-- A file spelled with dots and doubled slashes, one whose names begin with dots, and one that
would lead out of its folder. -/
theorem Spells.normalises_boss :
  Spells "./events//..boss/.../".toList [".".toList, "events".toList, [], "..boss".toList,
    "...".toList, []] ∧
  key? "./events//..boss/.../" = some "events/..boss/..." ∧
  key? "events/..boss/..." = some "events/..boss/..." ∧
  (∃ names, names ≠ [] ∧ placeFrom [] (resolve "macros/../timelines/" "events/..boss/...").toList
    = placeFrom [] "macros/../timelines/".toList ++ names) ∧
  key? "events/../boss" = none
  := by
  have hspells : Spells "./events//..boss/.../".toList [".".toList, "events".toList, [],
      "..boss".toList, "...".toList, []] := spells_iff.mpr (by decide +kernel)
  have hkey : key? "./events//..boss/.../" = some "events/..boss/..." := by decide +kernel
  obtain ⟨-, -, -, -, hself, hbelow⟩ := hspells.normalises.2.1 _ hkey
  exact ⟨hspells, hkey, hself, hbelow [] _, by decide +kernel⟩

end CommandTimelines.Path
