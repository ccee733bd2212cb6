import CommandTimelines.Proofs.Lines
import CommandTimelines.Server.Execute

/-!
# The spellings of a file

A timeline may be spelled in many ways: single dots, doubled slashes and slashes at the end lead
nowhere, and `Path.key?` takes them out. The permission nodes of a file are read off another
path, its slashed one, from which nothing is taken out. The name at the end of that path depends
on the key alone (`Path.stem?_eq`), and so does the node for it. The folder is what the path
spells, and the node for it is the same for all spellings of a file only as long as no piece of
the folder leads nowhere (`Path.IsTidy.folder?_eq`).

So what a player may use by the name of a file, or because every timeline is open to them, does
not depend on the spelling; what they may use by its folder does (`mayUse_spelling`).
-/

namespace CommandTimelines

namespace Text

theorem not_mem_of_mem_pieces {sep : Char} {s piece : List Char} (h : piece ∈ pieces sep s) :
  sep ∉ piece
  := by
  induction s generalizing piece with
  | nil =>
    obtain rfl : piece = [] := by simpa [pieces] using h
    exact List.not_mem_nil
  | cons c r ih =>
    unfold pieces at h
    split at h
    · rcases List.mem_cons.mp h with rfl | h
      · exact List.not_mem_nil
      · exact ih h
    · rename_i hc
      obtain ⟨p, ps, hp⟩ := List.exists_cons_of_ne_nil (pieces_ne_nil sep r)
      rw [hp] at h ih
      rcases List.mem_cons.mp h with rfl | h
      · have hrest := ih List.mem_cons_self
        simp [Ne.symm hc, hrest]
      · exact ih (List.mem_cons_of_mem p h)

/-- The pieces of a text make up the text. -/
theorem intercalate_pieces (sep : Char) (s : List Char) :
  [sep].intercalate (pieces sep s) = s
  := by
  induction s with
  | nil => rfl
  | cons c r ih =>
    obtain ⟨p, ps, hp⟩ := List.exists_cons_of_ne_nil (pieces_ne_nil sep r)
    rw [hp] at ih
    by_cases hc : c = sep
    · rw [pieces, if_pos hc, hp, List.intercalate_cons_of_ne_nil (List.cons_ne_nil p ps), ih, hc]
      rfl
    · rcases ps with _ | ⟨q, qs⟩
      · simp_all [pieces]
      · simp_all [pieces, List.intercalate_cons_of_ne_nil]

/-- To cut a text at two characters, put one for the other before cutting, or cut twice. -/
theorem pieces_replaceChar (old new : Char) (s : List Char) :
  pieces new (Permission.replaceChar old new s) = (pieces new s).flatMap (pieces old)
  := by
  induction s with
  | nil => rfl
  | cons c r ih =>
    obtain ⟨p, ps, hp⟩ := List.exists_cons_of_ne_nil (pieces_ne_nil new r)
    have hreplace : Permission.replaceChar old new (c :: r)
        = (if c = old then new else c) :: Permission.replaceChar old new r := rfl
    rw [hp, List.flatMap_cons] at ih
    rw [hreplace]
    by_cases hnew : c = new
    · have hc : (if c = old then new else c) = new := by
        rw [hnew, ite_self]
      rw [hc, pieces, if_pos rfl, pieces, if_pos hnew, ih, hp]
      rfl
    · by_cases hold : c = old
      · simp [pieces, hold ▸ hnew, hold, hp, ih]
      · obtain ⟨q, qs, hq⟩ := List.exists_cons_of_ne_nil (pieces_ne_nil old p)
        simp [pieces, hnew, hold, hp, hq, ih]

end Text

namespace Path

open Text

/-- A key is made of the telling pieces of the path. -/
theorem telling_of_key {file key : String} (h : key? file = some key) :
  telling file.toList = pieces '/' key.toList
  := by
  rw [key?] at h
  simp only [Option.ite_none_left_eq_some, Option.some.injEq, Bool.or_eq_true, beq_iff_eq,
    not_or] at h
  obtain ⟨⟨-, hne⟩, rfl⟩ := h
  have hmem : ∀ piece ∈ telling file.toList, '/' ∉ piece := by
    intro piece hpiece
    exact not_mem_of_mem_pieces (List.mem_of_mem_filter hpiece)
  rw [String.toList_ofList, ofPieces, Script.pieces_intercalate hne hmem]

/-- The telling pieces of a path with slashes for its backslashes are found within the telling
pieces of the path. -/
theorem telling_replaceChar (path : List Char) :
  telling (Permission.replaceChar '\\' '/' path)
    = (telling path).flatMap fun piece => (pieces '\\' piece).filter (!isIdle ·)
  := by
  rw [telling, pieces_replaceChar, List.filter_flatMap, telling]
  induction pieces '/' path with
  | nil => rfl
  | cons p ps ih =>
    cases hidle : isIdle p with
    | false => simp [hidle, ih]
    | true =>
      -- There is no backslash in an idle piece, so nothing tells in it either way.
      have hnone : (pieces '\\' p).filter (!isIdle ·) = [] := by
        obtain rfl | rfl : p = [] ∨ p = ['.'] := by simpa [isIdle] using hidle
        · rfl
        · rfl
      simp [hidle, hnone, ih]

/-! ### The last piece and the folder -/

theorem dropIdleEnd_concat (ps : List (List Char)) :
  ∃ idle, ps = dropIdleEnd ps ++ idle ∧ ∀ p ∈ idle, isIdle p = true
  := by
  use (ps.reverse.takeWhile isIdle).reverse
  constructor
  · rw [dropIdleEnd, ← List.reverse_append, List.takeWhile_append_dropWhile,
      List.reverse_reverse]
  · intro p hp
    exact List.mem_takeWhile_imp (List.mem_reverse.mp hp)

theorem mem_of_mem_dropIdleEnd {piece : List Char} {ps : List (List Char)}
    (h : piece ∈ dropIdleEnd ps) :
  piece ∈ ps
  := by
  obtain ⟨idle, hps, -⟩ := dropIdleEnd_concat ps
  rw [hps]
  exact List.mem_append_left idle h

theorem filter_dropIdleEnd (ps : List (List Char)) :
  (dropIdleEnd ps).filter (!isIdle ·) = ps.filter (!isIdle ·)
  := by
  obtain ⟨idle, hps, hidle⟩ := dropIdleEnd_concat ps
  have hnone : idle.filter (!isIdle ·) = [] := by simpa using hidle
  conv_rhs => rw [hps, List.filter_append, hnone, List.append_nil]

theorem filter_cons_dropIdleEnd (first : List Char) (ps : List (List Char)) :
  (first :: dropIdleEnd ps).filter (!isIdle ·) = (first :: ps).filter (!isIdle ·)
  := by
  rw [List.filter_cons, List.filter_cons, filter_dropIdleEnd]

theorem telling_of_not_mem {piece : List Char} (h : '/' ∉ piece) :
  telling piece = [piece].filter (!isIdle ·)
  := by
  rw [telling, pieces_of_not_mem h]

theorem telling_ofPieces {ps : List (List Char)} (hne : ps ≠ []) (h : ∀ p ∈ ps, '/' ∉ p) :
  telling (ofPieces ps) = ps.filter (!isIdle ·)
  := by
  rw [telling, ofPieces, Script.pieces_intercalate hne h]

/-- What is left of pieces ends in a piece that leads somewhere. -/
theorem isIdle_of_dropIdleEnd {ps before : List (List Char)} {last : List Char}
    (h : dropIdleEnd ps = before ++ [last]) :
  isIdle last = false
  := by
  have hdrop : ps.reverse.dropWhile isIdle = last :: before.reverse := by
    rw [← List.reverse_reverse (ps.reverse.dropWhile isIdle), ← dropIdleEnd, h]
    simp
  have hhead := List.head?_dropWhile_not isIdle ps.reverse
  simpa [hdrop] using hhead

/-- A path of several pieces ends in the last telling one, below a folder that has the other
telling pieces. -/
theorem leaf?_of_rest {path first last : List Char} {rest before : List (List Char)}
    (hpieces : pieces '/' path = first :: rest) (hrest : dropIdleEnd rest = before ++ [last]) :
  ∃ folder, leaf? path = some (last, folder)
    ∧ telling folder = (first :: before).filter (!isIdle ·)
  := by
  have hslash : ∀ p ∈ first :: dropIdleEnd before, '/' ∉ p := by
    intro p hp
    apply not_mem_of_mem_pieces (s := path)
    rw [hpieces]
    rcases List.mem_cons.mp hp with rfl | hp
    · exact List.mem_cons_self
    · apply List.mem_cons_of_mem
      apply mem_of_mem_dropIdleEnd
      rw [hrest]
      exact List.mem_append_left _ (mem_of_mem_dropIdleEnd hp)
  rw [leaf?, hpieces, ← filter_cons_dropIdleEnd]
  simp only [hrest, List.reverse_append, List.reverse_singleton, List.singleton_append,
    List.reverse_reverse]
  cases hbefore : dropIdleEnd before with
  | nil =>
    -- The folder is the first piece, or the root, which is spelled with no telling piece.
    refine ⟨_, rfl, ?_⟩
    by_cases hne : first = []
    · rw [if_pos hne, hne]
      rfl
    · rw [if_neg hne, telling_of_not_mem (hslash first List.mem_cons_self)]
  | cons folder folders =>
    rw [hbefore] at hslash
    exact ⟨_, rfl, telling_ofPieces (List.cons_ne_nil _ _) hslash⟩

/-- Either no piece of a path leads anywhere, or the path ends in its last telling piece, below a
folder that has the others. -/
theorem leaf?_cases (path : List Char) :
  (telling path = [] ∧ ∀ last folder, leaf? path = some (last, folder) →
      isIdle last = true ∧ folder = [])
    ∨ ∃ last folder, leaf? path = some (last, folder) ∧ isIdle last = false
      ∧ telling path = telling folder ++ [last]
  := by
  obtain ⟨first, rest, hpieces⟩ := List.exists_cons_of_ne_nil (pieces_ne_nil '/' path)
  have htelling : telling path = (first :: dropIdleEnd rest).filter (!isIdle ·) := by
    rw [telling, hpieces, filter_cons_dropIdleEnd]
  obtain hrest | ⟨before, last, hrest⟩ := List.eq_nil_or_concat (dropIdleEnd rest)
  · have hleaf : leaf? path = if first = [] then none else some (first, []) := by
      rw [leaf?, hpieces]
      simp only [hrest, List.reverse_nil]
    rw [hleaf, htelling, hrest]
    cases hidle : isIdle first with
    | true =>
      left
      refine ⟨by simp [hidle], ?_⟩
      intro last folder hsome
      simp only [Option.ite_none_left_eq_some, Option.some.injEq, Prod.mk.injEq] at hsome
      obtain ⟨-, rfl, rfl⟩ := hsome
      exact ⟨hidle, rfl⟩
    | false =>
      right
      have hne : first ≠ [] := by
        rintro rfl
        cases hidle
      refine ⟨first, [], if_neg hne, hidle, ?_⟩
      rw [List.filter_cons_of_pos (by simp [hidle])]
      rfl
  · right
    rw [List.concat_eq_append] at hrest
    have hidle := isIdle_of_dropIdleEnd hrest
    obtain ⟨folder, hleaf, hfolder⟩ := leaf?_of_rest hpieces hrest
    refine ⟨last, folder, hleaf, hidle, ?_⟩
    rw [htelling, hfolder, hrest, ← List.cons_append, List.filter_append]
    simp [hidle]

/-- The name at the end of a path depends on what tells where the path leads, and on nothing
else. -/
theorem stem?_eq (path : List Char) :
  stem? path = ((telling path).getLast?.filter (· != upward)).map withoutExtension
  := by
  rw [stem?]
  obtain ⟨htelling, hleaf⟩ | ⟨last, folder, hleaf, hidle, htelling⟩ := leaf?_cases path
  · rw [htelling]
    split
    · rfl
    · rename_i last folder heq
      simp [hleaf last folder heq]
  · rw [hleaf, htelling, List.getLast?_concat]
    by_cases hup : last = upward
    · simp [hup]
    · simp [hidle, hup]

/-! ### Tidy folders -/

/-- Whether no piece of a path's folder leads nowhere. -/
def IsTidy (path : List Char) : Prop :=
  ∀ folder ∈ folder? path, ∀ piece ∈ pieces '/' folder, isIdle piece = false

instance (path : List Char) : Decidable (IsTidy path) :=
  inferInstanceAs (Decidable (∀ folder ∈ folder? path, _))

/-- The folder of a path, if it is tidy, is made of the telling pieces of the path but the
last. -/
theorem IsTidy.folder?_eq {path : List Char} (h : IsTidy path) :
  folder? path = if (telling path).dropLast = [] then none
    else some (ofPieces (telling path).dropLast)
  := by
  obtain ⟨htelling, hleaf⟩ | ⟨last, folder, hleaf, -, htelling⟩ := leaf?_cases path
  · rw [htelling, folder?]
    split
    · rfl
    · rename_i last folder heq
      simp [hleaf last folder heq]
  · rw [htelling, List.dropLast_concat]
    by_cases hne : folder = []
    · simp [folder?, hleaf, hne, telling, pieces, isIdle]
    · have hfolder : folder? path = some folder := by
        rw [folder?, hleaf]
        exact if_neg hne
      have hpieces : telling folder = pieces '/' folder := by
        apply List.filter_eq_self.mpr
        intro piece hpiece
        simp [h folder hfolder piece hpiece]
      rw [hfolder, hpieces, if_neg (pieces_ne_nil '/' folder), ofPieces, intercalate_pieces]

end Path

namespace Permission

open Host

/-- The path that the nodes of a file are read off. -/
def slashed (file : String) : List Char := replaceChar '\\' '/' file.toList

/-- Whether an actor may use a file because every file is open to them or because files of its
name are. -/
def mayUseByName (actor : Actor) (file : String) : Bool :=
  actor.holds everyTimeline || (Path.stem? (slashed file)).any fun stem => actor.holds (node stem)

/-- Whether an actor may use a file because its folder is open to them. -/
def mayUseByFolder (actor : Actor) (file : String) : Bool :=
  (Path.folder? (slashed file)).any fun folder => (folderNodes folder).any actor.holds

theorem mayUse_eq (actor : Actor) (file : String) :
  mayUse actor file = (mayUseByName actor file || mayUseByFolder actor file)
  := by
  rw [mayUse, nodes, mayUseByName, mayUseByFolder, slashed, Bool.or_assoc, List.any_append]
  congr 2
  · cases Path.stem? (replaceChar '\\' '/' file.toList) with
    | none => rfl
    | some stem => simp
  · cases Path.folder? (replaceChar '\\' '/' file.toList) with
    | none => rfl
    | some folder => simp

/-- Slashed paths lead to one place if the files are one timeline. -/
theorem telling_slashed_eq {f g key : String} (hf : Path.key? f = some key)
    (hg : Path.key? g = some key) :
  Path.telling (slashed f) = Path.telling (slashed g)
  := by
  rw [slashed, slashed, Path.telling_replaceChar, Path.telling_replaceChar,
    Path.telling_of_key hf, Path.telling_of_key hg]

end Permission

open Host

/-- A request for a file is forbidden to whoever may not use the file, and to no one else. -/
theorem Operator.Request.forbidden?_ofArgs {word : String} (hword : Text.lower word ≠ "show")
    (actor : Actor) (file : String) (args : List String) :
  (ofArgs (word :: file :: args)).forbidden? actor
    = if Permission.mayUse actor file then none else some file
  := by
  have hfile : (ofArgs (word :: file :: args)).file? = some file := by
    rw [ofArgs, if_neg hword]
    split
    · rfl
    · split <;> rfl
  rw [forbidden?, hfile]
  cases hmay : Permission.mayUse actor file <;> simp [Option.filter, hmay]

/-- A server carries out a request for a file if the actor may use the file, and refuses it
otherwise. -/
theorem Server.execute_file {word : String} (hword : Text.lower word ≠ "show") (s : Server)
    (ticket : Ticket) (files : Files) (actor : Actor) (file : String) (args : List String) :
  s.execute ticket files actor (word :: file :: args)
    = if Permission.mayUse actor file
      then s.grant ticket files (Operator.Request.ofArgs (word :: file :: args))
      else s.refuse ticket actor file
  := by
  rw [execute, Operator.Request.forbidden?_ofArgs hword]
  cases Permission.mayUse actor file <;> rfl

namespace Permission

/-- What is open to an actor by its name, or with every timeline, is open in all spellings. What
is open by its folder is open in all spellings in which the folder is spelled alike, and so in all
tidy ones: there the actor may use the timeline in all of them or in none, and a server carries
out every request that names it, or refuses every one. -/
theorem mayUse_spelling {f g key : String} (hf : Path.key? f = some key)
    (hg : Path.key? g = some key) :
  (∀ actor, mayUseByName actor f = mayUseByName actor g
    ∧ (mayUseByName actor f = true → mayUse actor f = true ∧ mayUse actor g = true))
  ∧ (Path.folder? (slashed f) = Path.folder? (slashed g)
      ∨ Path.IsTidy (slashed f) ∧ Path.IsTidy (slashed g) →
    ∀ actor, mayUse actor f = mayUse actor g
      ∧ ∀ (s : Server) (ticket : Ticket) (files : Files) (word : String)
          (args : List String), Text.lower word ≠ "show" →
        if mayUse actor f then
          s.execute ticket files actor (word :: f :: args)
              = s.grant ticket files (Operator.Request.ofArgs (word :: f :: args))
            ∧ s.execute ticket files actor (word :: g :: args)
              = s.grant ticket files (Operator.Request.ofArgs (word :: g :: args))
        else
          s.execute ticket files actor (word :: f :: args) = s.refuse ticket actor f
            ∧ s.execute ticket files actor (word :: g :: args) = s.refuse ticket actor g)
  := by
  have htelling := telling_slashed_eq hf hg
  have hname : ∀ actor, mayUseByName actor f = mayUseByName actor g := by
    intro actor
    rw [mayUseByName, mayUseByName, Path.stem?_eq, Path.stem?_eq, htelling]
  constructor
  · intro actor
    refine ⟨hname actor, ?_⟩
    intro hf
    have hg : mayUseByName actor g = true := hname actor ▸ hf
    rw [mayUse_eq, mayUse_eq, hf, hg, Bool.true_or, Bool.true_or]
    exact ⟨rfl, rfl⟩
  intro hfolders actor
  have hfolder : Path.folder? (slashed f) = Path.folder? (slashed g) := by
    rcases hfolders with halike | ⟨hftidy, hgtidy⟩
    · exact halike
    · rw [hftidy.folder?_eq, hgtidy.folder?_eq, htelling]
  have hmay : mayUse actor f = mayUse actor g := by
    rw [mayUse_eq, mayUse_eq, hname, mayUseByFolder, mayUseByFolder, hfolder]
  refine ⟨hmay, ?_⟩
  intro s ticket files word args hword
  rw [Server.execute_file hword, Server.execute_file hword, ← hmay]
  cases mayUse actor f <;> simp

/-- Two tidy spellings of a timeline, and a player to whom its folder is open. -/
theorem mayUse_spelling_boss :
  let f := "events/boss.txt"
  let g := "events//./boss.txt/"
  let player : Actor := .player "alice" ["Timeline.Use-Events"]
  Path.key? f = some f ∧ Path.key? g = some f
    ∧ Path.IsTidy (slashed f) ∧ Path.IsTidy (slashed g)
    ∧ mayUse player f = true ∧ mayUse player f = mayUse player g
  := by
  intro f g player
  have hf : Path.key? f = some f := by decide +kernel
  have hg : Path.key? g = some f := by decide +kernel
  have hftidy : Path.IsTidy (slashed f) := by decide +kernel
  have hgtidy : Path.IsTidy (slashed g) := by decide +kernel
  have hspelling := (mayUse_spelling hf hg).2 (.inr ⟨hftidy, hgtidy⟩) player
  exact ⟨hf, hg, hftidy, hgtidy, by decide +kernel, hspelling.1⟩

/-- A dot in front of a timeline's folder keeps out a player to whom the folder is open. -/
theorem mayUse_dotted_boss :
  let f := "events/boss.txt"
  let g := "./events/boss.txt"
  let player : Actor := .player "alice" ["timeline.use-events"]
  Path.key? f = some f ∧ Path.key? g = some f
    ∧ mayUse player f = true ∧ mayUse player g = false
    ∧ ((Operator.Request.ofArgs ["stop", f]).forbidden? player = none)
    ∧ (Operator.Request.ofArgs ["stop", g]).forbidden? player = some g
  := by decide +kernel

end Permission

end CommandTimelines
