import CommandTimelines.Proofs.Identifiers
import CommandTimelines.Proofs.LetterCase

/-!
# Who may use a file

The permission nodes of a file that lies at a spelled-out path: the node for the name without its
extension, and the nodes for the folders, joined with slashes and joined with backslashes
(`Permission.mem_nodes_iff`). A player may use the file if, up to lower-casing, one of these was
given to them or the node that opens every timeline (`Permission.mayUse_player_iff`).

Lower-casing mixes up nodes that differ in more than the case of their letters. It never mixes up
the nodes of two folders one of which lies within the other, as it keeps the number of separators
(`Permission.length_eq_of_lower_node_eq`), nor anything with the node that has nothing after its
dash (`Permission.eq_nil_of_lower_node_eq`).
-/

namespace CommandTimelines

namespace Text

theorem count_intercalate {x sep : Char} {ps : List (List Char)} (hne : ps ≠ [])
    (h : ∀ p ∈ ps, x ∉ p) :
  ([sep].intercalate ps).count x = if sep = x then ps.length - 1 else 0
  := by
  induction ps with
  | nil => exact absurd rfl hne
  | cons p ps ih =>
    obtain ⟨hp, hps⟩ := List.forall_mem_cons.mp h
    have hnone : p.count x = 0 := List.count_eq_zero.mpr hp
    cases ps with
    | nil =>
      rw [List.intercalate_singleton, hnone]
      exact (ite_self 0).symm
    | cons q qs =>
      have hrest := ih (List.cons_ne_nil q qs) hps
      rw [List.intercalate_cons_of_ne_nil (List.cons_ne_nil q qs), List.count_append,
        List.count_append, hnone, hrest, List.count_singleton]
      by_cases hsep : sep = x
      · simp [hsep, Nat.add_comm]
      · simp [hsep]

theorem mem_intercalate {x : Char} {p sep : List Char} {ps : List (List Char)} (hp : p ∈ ps)
    (hx : x ∈ p) :
  x ∈ sep.intercalate ps
  := by
  induction ps with
  | nil => cases hp
  | cons q qs ih =>
    by_cases hqs : qs = []
    · subst hqs
      rw [List.intercalate_singleton]
      rwa [List.mem_singleton.mp hp] at hx
    · rw [List.intercalate_cons_of_ne_nil hqs]
      rcases List.mem_cons.mp hp with rfl | hp
      · exact List.mem_append_left _ (List.mem_append_left _ hx)
      · exact List.mem_append_right _ (ih hp)

end Text

namespace Path

open Text

/-! ### Names and what they are without their extensions -/

/-- `HasStem name stem`: the name without its last extension is the stem. An extension starts with
a dot that is not the first character of the name, and no dot follows. -/
inductive HasStem : List Char → List Char → Prop where
  /-- What stands before the last dot, unless nothing does. -/
  | cut {stem extension : List Char} (hne : stem ≠ []) (hdot : '.' ∉ extension) :
      HasStem (stem ++ '.' :: extension) stem
  /-- All of a name with no dot but maybe a first one. -/
  | whole {name : List Char} (hdot : '.' ∉ name.tail) : HasStem name name

theorem dropWhile_reverse_of_not_mem {stem extension : List Char} (h : '.' ∉ extension) :
  (stem ++ '.' :: extension).reverse.dropWhile (· ≠ '.') = '.' :: stem.reverse
  := by
  have hall : ∀ c ∈ extension.reverse, (decide (c ≠ '.')) = true := by
    intro c hc
    rw [decide_eq_true_eq]
    rintro rfl
    exact h (List.mem_reverse.mp hc)
  rw [List.reverse_append, List.reverse_cons, List.append_assoc,
    List.dropWhile_append_of_pos hall]
  rfl

theorem HasStem.withoutExtension_eq {name stem : List Char} (h : HasStem name stem) :
  withoutExtension name = stem
  := by
  cases h with
  | cut hne hdot =>
    rw [withoutExtension, dropWhile_reverse_of_not_mem hdot]
    obtain ⟨c, r, hstem⟩ := List.exists_cons_of_ne_nil (mt List.reverse_eq_nil_iff.mp hne)
    rw [hstem]
    simp only [← hstem, List.reverse_reverse]
  | whole hdot =>
    -- The last dot is the first character, or there is none.
    rw [withoutExtension]
    cases name with
    | nil => rfl
    | cons c r =>
      rw [List.tail_cons] at hdot
      by_cases hc : c = '.'
      · have hdrop : ([] ++ '.' :: r).reverse.dropWhile (· ≠ '.') = ['.'] :=
          dropWhile_reverse_of_not_mem hdot
        rw [List.nil_append] at hdrop
        rw [hc, hdrop]
      · have hnone : (c :: r).reverse.dropWhile (· ≠ '.') = [] := by
          rw [List.dropWhile_eq_nil_iff]
          intro d hd
          rw [decide_eq_true_eq]
          rintro rfl
          rcases List.mem_cons.mp (List.mem_reverse.mp hd) with h | h
          · exact hc h.symm
          · exact hdot h
        rw [hnone]

/-- Every name has a stem, and only one. -/
theorem hasStem_iff {name stem : List Char} :
  HasStem name stem ↔ withoutExtension name = stem
  := by
  constructor
  · intro h
    exact h.withoutExtension_eq
  rintro rfl
  by_cases hdot : '.' ∈ name.tail
  · cases name with
    | nil => cases hdot
    | cons c r =>
      obtain ⟨late, early, hr, hlate⟩ := List.eq_append_cons_of_mem (List.mem_reverse.mpr hdot)
      have hname : c :: r = (c :: early.reverse) ++ '.' :: late.reverse := by
        have hback := congrArg List.reverse hr
        rw [List.reverse_reverse, List.reverse_append, List.reverse_cons, List.append_assoc]
          at hback
        exact congrArg (List.cons c) hback
      have hcut : HasStem (c :: r) (c :: early.reverse) := by
        rw [hname]
        exact .cut (List.cons_ne_nil _ _) (mt List.mem_reverse.mp hlate)
      rwa [hcut.withoutExtension_eq]
  · have hwhole := HasStem.whole hdot
    rwa [hwhole.withoutExtension_eq]

theorem withoutExtension_ne_nil {name : List Char} (h : name ≠ []) :
  withoutExtension name ≠ []
  := by
  rw [withoutExtension]
  split
  · rw [Ne, List.reverse_eq_nil_iff]
    exact List.cons_ne_nil _ _
  · exact h

theorem stem?_ne_nil {path stem : List Char} (h : stem? path = some stem) :
  stem ≠ []
  := by
  rw [stem?] at h
  split at h
  · cases h
  · simp only [Option.ite_none_left_eq_some, Option.some.injEq, Bool.or_eq_true, not_or,
      Bool.not_eq_true, isIdle_eq_false_iff] at h
    obtain ⟨⟨⟨hne, -⟩, -⟩, rfl⟩ := h
    exact withoutExtension_ne_nil hne

theorem folder?_ne_nil {path folder : List Char} (h : folder? path = some folder) :
  folder ≠ []
  := by
  rw [folder?] at h
  split at h
  · cases h
  · simp only [Option.ite_none_left_eq_some, Option.some.injEq] at h
    obtain ⟨hne, rfl⟩ := h
    exact hne

/-! ### Paths that lead on with every piece -/

theorem dropIdleEnd_eq_self {ps : List (List Char)} (h : ∀ p ∈ ps, isIdle p = false) :
  dropIdleEnd ps = ps
  := by
  obtain ⟨idle, hps, hidle⟩ := dropIdleEnd_concat ps
  have hnone : idle = [] := by
    apply List.eq_nil_iff_forall_not_mem.mpr
    intro p hp
    have hnot := h p (hps ▸ List.mem_append_right _ hp)
    rw [hidle p hp] at hnot
    cases hnot
  rw [hnone, List.append_nil] at hps
  exact hps.symm

section

variable {path leaf : List Char} {folders : List (List Char)}
  (h : Spells path (folders ++ [leaf])) (hidle : ∀ p ∈ folders ++ [leaf], isIdle p = false)

include h hidle

theorem Spells.leaf?_eq :
  leaf? path = some (leaf, ofPieces folders)
  := by
  have hpieces := (spells_iff.mp h).symm
  rw [leaf?, hpieces]
  cases folders with
  | nil =>
    have hleaf : leaf ≠ [] := (isIdle_eq_false_iff.mp (hidle leaf List.mem_cons_self)).1
    exact if_neg hleaf
  | cons first rest =>
    have hfirst : isIdle first = false := hidle first List.mem_cons_self
    have hrest : ∀ p ∈ rest ++ [leaf], isIdle p = false := by
      intro p hp
      exact hidle p (List.mem_cons_of_mem first hp)
    have hbefore : ∀ p ∈ rest, isIdle p = false := by
      intro p hp
      exact hrest p (List.mem_append_left _ hp)
    have hlast : (dropIdleEnd (rest ++ [leaf])).reverse = leaf :: rest.reverse := by
      rw [dropIdleEnd_eq_self hrest, List.reverse_concat]
    have hback : dropIdleEnd rest.reverse.reverse = rest := by
      rw [List.reverse_reverse, dropIdleEnd_eq_self hbefore]
    simp only [List.cons_append, hlast, hback]
    cases rest with
    | nil =>
      rw [if_neg (isIdle_eq_false_iff.mp hfirst).1, ofPieces, List.intercalate_singleton]
    | cons folder folders => rfl

theorem Spells.folder?_eq :
  folder? path = if folders = [] then none else some (ofPieces folders)
  := by
  rw [folder?, h.leaf?_eq hidle]
  by_cases hnone : folders = []
  · rw [hnone]
    rfl
  · have hne : ofPieces folders ≠ [] := by
      obtain ⟨first, hfirst⟩ := List.exists_mem_of_ne_nil _ hnone
      obtain ⟨c, hc⟩ := List.exists_mem_of_ne_nil first
        (isIdle_eq_false_iff.mp (hidle first (List.mem_append_left _ hfirst))).1
      exact List.ne_nil_of_mem (mem_intercalate hfirst hc)
    rw [if_neg hnone]
    exact if_neg hne

theorem Spells.stem?_eq (hup : leaf ≠ upward) :
  stem? path = some (withoutExtension leaf)
  := by
  rw [stem?, h.leaf?_eq hidle]
  have hleaf := hidle leaf (List.mem_append_right _ (List.mem_singleton_self leaf))
  have hnot : (isIdle leaf || leaf == upward) = false := by
    rw [hleaf, Bool.false_or, beq_eq_false_iff_ne]
    exact hup
  simp only [hnot, Bool.false_eq_true, if_false]

end

end Path

namespace Permission

open Host Text

/-! ### The nodes of a file -/

theorem replaceChar_of_not_mem {old : Char} {s : List Char} (h : old ∉ s) (new : Char) :
  replaceChar old new s = s
  := by
  conv_rhs => rw [← List.map_id s]
  apply List.map_congr_left
  intro c hc
  apply if_neg
  rintro rfl
  exact h hc

theorem replaceChar_intercalate {old : Char} {ps : List (List Char)} (h : ∀ p ∈ ps, old ∉ p)
    (new : Char) :
  replaceChar old new ([old].intercalate ps) = [new].intercalate ps
  := by
  induction ps with
  | nil => rfl
  | cons p ps ih =>
    obtain ⟨hp, hps⟩ := List.forall_mem_cons.mp h
    by_cases hnil : ps = []
    · rw [hnil, List.intercalate_singleton, List.intercalate_singleton,
        replaceChar_of_not_mem hp]
    · have hsep : replaceChar old new [old] = [new] := by
        simp [replaceChar]
      rw [List.intercalate_cons_of_ne_nil hnil, List.intercalate_cons_of_ne_nil hnil, ← ih hps,
        ← hsep]
      conv_rhs => rw [← replaceChar_of_not_mem hp new]
      simp only [replaceChar, List.map_append]

/-- The nodes of spelled-out folders: with slashes between their names, and with backslashes. -/
theorem mem_folderNodes_iff {folders : List (List Char)} (h : ∀ p ∈ folders, '/' ∉ p)
    {n : String} :
  n ∈ folderNodes (Path.ofPieces folders)
    ↔ ∃ sep, (sep = '/' ∨ sep = '\\') ∧ n = node ([sep].intercalate folders)
  := by
  have hback : replaceChar '/' '\\' (Path.ofPieces folders) = ['\\'].intercalate folders :=
    replaceChar_intercalate h '\\'
  simp only [or_and_right, exists_or, exists_eq_left]
  rw [folderNodes]
  split
  · rw [hback, List.mem_cons, List.mem_singleton]
    rfl
  · rename_i hnot
    rw [List.contains_iff_mem] at hnot
    rw [replaceChar_of_not_mem hnot] at hback
    rw [List.mem_singleton, hback]
    have hsame : ['/'].intercalate folders = ['\\'].intercalate folders := hback
    rw [hsame, or_self]

/-- What the nodes of a file are. -/
theorem mem_nodes {file n : String} (h : n ∈ nodes file) :
  ∃ name, name ≠ [] ∧ n = node name
  := by
  rcases List.mem_append.mp h with h | h
  · split at h
    · rename_i stem hstem
      exact ⟨stem, Path.stem?_ne_nil hstem, List.mem_singleton.mp h⟩
    · cases h
  · split at h
    · rename_i folder hfolder
      have hne := Path.folder?_ne_nil hfolder
      rw [folderNodes] at h
      split at h
      · rcases List.mem_cons.mp h with rfl | h
        · exact ⟨folder, hne, rfl⟩
        · refine ⟨_, ?_, List.mem_singleton.mp h⟩
          rwa [replaceChar, Ne, List.map_eq_nil_iff]
      · exact ⟨folder, hne, List.mem_singleton.mp h⟩
    · cases h

/-- The nodes of a file at a spelled-out path. -/
theorem mem_nodes_iff {file : String} {folders : List (List Char)} {leaf stem : List Char}
    (hspells : Path.Spells (slashed file) (folders ++ [leaf]))
    (hnames : ∀ p ∈ folders ++ [leaf], p ≠ [] ∧ p ≠ ['.'] ∧ p ≠ Path.upward)
    (hstem : Path.HasStem leaf stem) {n : String} :
  n ∈ nodes file ↔
    n = node stem ∨
      folders ≠ [] ∧ ∃ sep, (sep = '/' ∨ sep = '\\') ∧ n = node ([sep].intercalate folders)
  := by
  have hidle : ∀ p ∈ folders ++ [leaf], Path.isIdle p = false := by
    intro p hp
    exact Path.isIdle_eq_false_iff.mpr ⟨(hnames p hp).1, (hnames p hp).2.1⟩
  have hup := (hnames leaf (List.mem_append_right _ (List.mem_singleton_self leaf))).2.2
  have hslash : ∀ p ∈ folders, '/' ∉ p := by
    intro p hp
    exact hspells.slash_not_mem p (List.mem_append_left _ hp)
  have hname : Path.stem? (replaceChar '\\' '/' file.toList) = some stem := by
    rw [← hstem.withoutExtension_eq]
    exact hspells.stem?_eq hidle hup
  have hfolder : Path.folder? (replaceChar '\\' '/' file.toList)
      = if folders = [] then none else some (Path.ofPieces folders) := hspells.folder?_eq hidle
  simp only [nodes, hname, hfolder, List.mem_append, List.mem_singleton]
  by_cases hnone : folders = []
  · simp [hnone]
  · simp only [hnone, if_false, ne_eq, not_false_eq_true, true_and, mem_folderNodes_iff hslash]

/-! ### Nodes in lower case -/

theorem toList_lower_node (name : List Char) :
  (lower (node name)).toList
    = "timeline.use-".toList ++ lowerFrom "timeline.use-".toList.reverse name
  := by
  have hascii : ∀ c ∈ "timeline.use-".toList, c.toNat < 0x80 := by simp
  have hlower : "timeline.use-".toList.map Char.toLower = "timeline.use-".toList := by
    decide +kernel
  have hnode : (node name).toList = "timeline.use-".toList ++ name := by
    rw [node, String.toList_append, String.toList_ofList (l := name)]
  rw [lower, String.toList_ofList, hnode, lowerFrom_append_of_ascii hascii, hlower,
    List.append_nil]

theorem lowerFrom_eq_of_lower_node_eq {a b : List Char} (h : lower (node a) = lower (node b)) :
  lowerFrom "timeline.use-".toList.reverse a = lowerFrom "timeline.use-".toList.reverse b
  := by
  have hlist := String.toList_inj.mpr h
  rw [toList_lower_node, toList_lower_node] at hlist
  exact List.append_cancel_left hlist

theorem lower_node_ne (name : List Char) :
  lower (node name) ≠ lower everyTimeline
  := by
  intro h
  have hlist := String.toList_inj.mpr h
  rw [toList_lower_node] at hlist
  have htake := congrArg (List.take 10) hlist
  rw [List.take_append_of_le_length (by decide)] at htake
  exact absurd htake (by decide)

/-- Only the node with nothing after its dash is spelled like it. -/
theorem eq_nil_of_lower_node_eq {name : List Char} (h : lower (node []) = lower (node name)) :
  name = []
  := by
  have hlength := length_le_lowerFrom name "timeline.use-".toList.reverse
  rw [← lowerFrom_eq_of_lower_node_eq h] at hlength
  exact List.eq_nil_of_length_eq_zero (Nat.le_zero.mp hlength)

/-- Nodes of folders that are spelled alike up to lower-casing are nodes of equally many
folders. -/
theorem length_eq_of_lower_node_eq {ps qs : List (List Char)} (hps : ps ≠ []) (hqs : qs ≠ [])
    (hpsep : ∀ p ∈ ps, '/' ∉ p ∧ '\\' ∉ p) (hqsep : ∀ q ∈ qs, '/' ∉ q ∧ '\\' ∉ q)
    {sep sep' : Char} (hsep : sep = '/' ∨ sep = '\\') (hsep' : sep' = '/' ∨ sep' = '\\')
    (h : lower (node ([sep].intercalate ps)) = lower (node ([sep'].intercalate qs))) :
  ps.length = qs.length
  := by
  have hlower := lowerFrom_eq_of_lower_node_eq h
  have hcount : ∀ x, IsCaseless x →
      ([sep].intercalate ps).count x = ([sep'].intercalate qs).count x := by
    intro x hx
    rw [← count_lowerFrom hx _ "timeline.use-".toList.reverse, hlower, count_lowerFrom hx]
  have hslash := hcount '/' (by decide)
  have hback := hcount '\\' (by decide)
  rw [count_intercalate hps fun p hp => (hpsep p hp).1,
    count_intercalate hqs fun q hq => (hqsep q hq).1] at hslash
  rw [count_intercalate hps fun p hp => (hpsep p hp).2,
    count_intercalate hqs fun q hq => (hqsep q hq).2] at hback
  have hppos := List.length_pos_iff.mpr hps
  have hqpos := List.length_pos_iff.mpr hqs
  rcases hsep with rfl | rfl <;> rcases hsep' with rfl | rfl <;> simp at hslash hback <;> omega

/-! ### Who may use a file -/

theorem holds_player_iff (name : String) (given : List String) (n : String) :
  (Actor.player name given).holds n = true ↔ ∃ g ∈ given, lower g = lower n
  := by
  simp [Actor.holds]

theorem mayUse_player_iff (name : String) (given : List String) (file : String) :
  mayUse (.player name given) file = true
    ↔ ∃ g ∈ given, ∃ n ∈ everyTimeline :: nodes file, lower g = lower n
  := by
  have hany : mayUse (.player name given) file
      = (everyTimeline :: nodes file).any (Actor.player name given).holds := rfl
  rw [hany, List.any_eq_true]
  simp only [holds_player_iff]
  constructor
  · rintro ⟨n, hn, g, hg, hlower⟩
    exact ⟨g, hg, n, hn, hlower⟩
  · rintro ⟨g, hg, n, hn, hlower⟩
    exact ⟨n, hn, g, hg, hlower⟩

/-- One more node opens what it is spelled like, and nothing else. -/
theorem mayUse_cons_iff (name x : String) (given : List String) (file : String) :
  mayUse (.player name (x :: given)) file = true
    ↔ (∃ n ∈ everyTimeline :: nodes file, lower x = lower n)
      ∨ mayUse (.player name given) file = true
  := by
  rw [mayUse_player_iff, mayUse_player_iff, List.exists_mem_cons_iff]

theorem not_mem_slashed (file : String) :
  '\\' ∉ slashed file
  := by
  intro hmem
  obtain ⟨c, -, hc⟩ := List.mem_map.mp hmem
  split at hc
  · exact absurd hc (by decide)
  · rename_i hne
    exact hne hc

theorem mayUse_eq_of_slashed_eq {file file' : String} (h : slashed file' = slashed file)
    (actor : Actor) :
  mayUse actor file' = mayUse actor file
  := by
  have hsame : nodes file' = nodes file := by
    rw [nodes, nodes]
    rw [slashed, slashed] at h
    rw [h]
  rw [mayUse, mayUse, hsame]

/-- The node with nothing after its dash opens no file. -/
theorem mayUse_cons_eq_of_dash {x : String} (hx : lower x = lower (node [])) (name : String)
    (given : List String) (file : String) :
  mayUse (.player name (x :: given)) file = mayUse (.player name given) file
  := by
  rw [Bool.eq_iff_iff, mayUse_cons_iff]
  apply or_iff_right
  rintro ⟨n, hn, hlower⟩
  have hnode := hx.symm.trans hlower
  rcases List.mem_cons.mp hn with rfl | hn
  · exact lower_node_ne _ hnode
  · obtain ⟨rest, hrest, rfl⟩ := mem_nodes hn
    exact hrest (eq_nil_of_lower_node_eq hnode)

section

variable {file : String} {folders : List (List Char)} {leaf stem : List Char}
  (hspells : Path.Spells (slashed file) (folders ++ [leaf]))
  (hnames : ∀ p ∈ folders ++ [leaf], p ≠ [] ∧ p ≠ ['.'] ∧ p ≠ Path.upward)
  (hstem : Path.HasStem leaf stem)

include hspells hnames hstem

/-- What opens a file at a spelled-out path. -/
theorem mem_openers_iff {n : String} :
  n ∈ everyTimeline :: nodes file ↔ n = everyTimeline ∨ n = node stem
    ∨ folders ≠ [] ∧ ∃ sep, (sep = '/' ∨ sep = '\\') ∧ n = node ([sep].intercalate folders)
  := by
  rw [List.mem_cons, mem_nodes_iff hspells hnames hstem]

theorem mayUse_iff_opened (name : String) (given : List String) :
  mayUse (.player name given) file = true ↔
    ∃ g ∈ given, lower g = lower everyTimeline ∨ lower g = lower (node stem)
      ∨ folders ≠ [] ∧ ∃ sep, (sep = '/' ∨ sep = '\\')
        ∧ lower g = lower (node ([sep].intercalate folders))
  := by
  rw [mayUse_player_iff]
  apply exists_congr
  intro g
  apply and_congr_right
  intro _
  constructor
  · rintro ⟨n, hn, hlower⟩
    rcases (mem_openers_iff hspells hnames hstem).mp hn with rfl | rfl | ⟨hne, sep, hsep, rfl⟩
    · exact .inl hlower
    · exact .inr (.inl hlower)
    · exact .inr (.inr ⟨hne, sep, hsep, hlower⟩)
  · simp only [mem_openers_iff hspells hnames hstem]
    rintro (hlower | hlower | ⟨hne, sep, hsep, hlower⟩)
    · exact ⟨_, .inl rfl, hlower⟩
    · exact ⟨_, .inr (.inl rfl), hlower⟩
    · exact ⟨_, .inr (.inr ⟨hne, sep, hsep, rfl⟩), hlower⟩

omit hnames hstem in
theorem separator_not_mem {p : List Char} (hp : p ∈ folders) :
  '/' ∉ p ∧ '\\' ∉ p
  := by
  have hmem : p ∈ folders ++ [leaf] := List.mem_append_left _ hp
  refine ⟨hspells.slash_not_mem p hmem, ?_⟩
  intro hback
  apply not_mem_slashed file
  rw [hspells.eq_ofPieces]
  exact mem_intercalate hmem hback

/-- The node for another folder, if it is not on the same level, opens a file only if it is the
node for its stem. -/
theorem mayUse_cons_iff_of_length_ne {others : List (List Char)} (hothers : others ≠ [])
    (hlength : others.length ≠ folders.length) (hsplit : ∀ p ∈ others, '/' ∉ p ∧ '\\' ∉ p)
    {sep : Char} (hsep : sep = '/' ∨ sep = '\\') {x : String}
    (hx : lower x = lower (node ([sep].intercalate others))) (name : String)
    (given : List String) :
  mayUse (.player name (x :: given)) file = true ↔
    lower x = lower (node stem) ∨ mayUse (.player name given) file = true
  := by
  rw [mayUse_cons_iff]
  apply or_congr_left'
  intro _
  constructor
  · rintro ⟨n, hn, hlower⟩
    rcases (mem_openers_iff hspells hnames hstem).mp hn with rfl | rfl | ⟨hsome, sep', hsep', rfl⟩
    · exact absurd (hx.symm.trans hlower) (lower_node_ne _)
    · exact hlower
    · have hfolders : ∀ p ∈ folders, '/' ∉ p ∧ '\\' ∉ p :=
        fun p hp => separator_not_mem hspells hp
      exact absurd (length_eq_of_lower_node_eq hothers hsome hsplit hfolders hsep hsep'
        (hx.symm.trans hlower)) hlength
  · intro hlower
    exact ⟨_, (mem_openers_iff hspells hnames hstem).mpr (.inr (.inl rfl)), hlower⟩

end

/-- A player may use a file that lies at a spelled-out path exactly if they were given, up to
lower-casing, the node that opens every timeline, the one for the stem of the file's name, or one
for its folders, joined all with slashes or all with backslashes. So it does not matter how
slashes and backslashes are mixed in the file. A node for the folders on the way to the file's
folder, or for a folder within it, opens the file only if it is the node for the stem. The node
with nothing after its dash opens no file at all. -/
theorem mayUse_iff_given {file : String} {folders : List (List Char)} {leaf stem : List Char}
    (hspells : Path.Spells (slashed file) (folders ++ [leaf]))
    (hnames : ∀ p ∈ folders ++ [leaf], p ≠ [] ∧ p ≠ ['.'] ∧ p ≠ ['.', '.'])
    (hstem : Path.HasStem leaf stem) :
  (∀ (name : String) (given : List String), mayUse (.player name given) file = true ↔
    ∃ g ∈ given, lower g = lower "timeline.admin.useall"
      ∨ lower g = lower ("timeline.use-" ++ String.ofList stem)
      ∨ folders ≠ [] ∧ ∃ sep, (sep = '/' ∨ sep = '\\')
        ∧ lower g = lower ("timeline.use-" ++ String.ofList ([sep].intercalate folders))) ∧
  (∀ file', slashed file' = slashed file → ∀ actor, mayUse actor file' = mayUse actor file) ∧
  (∀ others, others ≠ [] → others ≠ folders → (others <+: folders ∨ folders <+: others) →
    (∀ p ∈ others, '/' ∉ p ∧ '\\' ∉ p) → ∀ sep, (sep = '/' ∨ sep = '\\') → ∀ x,
    lower x = lower ("timeline.use-" ++ String.ofList ([sep].intercalate others)) →
    ∀ (name : String) (given : List String), mayUse (.player name (x :: given)) file = true ↔
      lower x = lower ("timeline.use-" ++ String.ofList stem)
      ∨ mayUse (.player name given) file = true) ∧
  ∀ (file' x : String), lower x = lower "timeline.use-" →
    ∀ (name : String) (given : List String),
      mayUse (.player name (x :: given)) file' = mayUse (.player name given) file'
  := by
  refine ⟨mayUse_iff_opened hspells hnames hstem, ?_, ?_, ?_⟩
  · intro file' hfile actor
    exact mayUse_eq_of_slashed_eq hfile actor
  · intro others hothers hne hwithin hsplit sep hsep x hx name given
    apply mayUse_cons_iff_of_length_ne hspells hnames hstem hothers _ hsplit hsep hx
    intro hlength
    rcases hwithin with habove | hbelow
    · exact hne (habove.eq_of_length hlength)
    · exact hne (hbelow.eq_of_length hlength.symm).symm
  · intro file' x hx name given
    exact mayUse_cons_eq_of_dash hx name given file'

/-- A file two folders down, for players who were given the node for its folder, and the one for
the folder above. -/
theorem mayUse_iff_given_raid :
  Path.Spells (slashed "Events\\raid/boss.v2.txt")
    (["Events".toList, "raid".toList] ++ ["boss.v2.txt".toList]) ∧
  Path.HasStem "boss.v2.txt".toList "boss.v2".toList ∧
  mayUse (.player "Alex" ["TIMELINE.use-events\\Raid"]) "Events\\raid/boss.v2.txt" = true ∧
  mayUse (.player "Alex" ["timeline.use-events"]) "Events\\raid/boss.v2.txt" = false ∧
  mayUse (.player "Alex" ["timeline.use-"]) "Events\\raid/boss.v2.txt" = false
  := by
  have hspells : Path.Spells (slashed "Events\\raid/boss.v2.txt")
      (["Events".toList, "raid".toList] ++ ["boss.v2.txt".toList]) :=
    Path.spells_iff.mpr (by decide +kernel)
  have hstem : Path.HasStem "boss.v2.txt".toList "boss.v2".toList :=
    Path.hasStem_iff.mpr (by decide +kernel)
  have huse := mayUse_iff_given hspells (by decide +kernel) hstem
  have hnone : mayUse (.player "Alex" []) "Events\\raid/boss.v2.txt" = false := by decide +kernel
  refine ⟨hspells, hstem, ?_, ?_, ?_⟩
  · apply (huse.1 _ _).mpr
    refine ⟨_, List.mem_singleton_self _, .inr (.inr ⟨List.cons_ne_nil _ _, '\\', .inr rfl, ?_⟩)⟩
    decide +kernel
  · have habove := huse.2.2.1 ["Events".toList] (List.cons_ne_nil _ _) (by decide +kernel)
      (.inl ⟨["raid".toList], rfl⟩) (by decide +kernel) '/' (.inl rfl) "timeline.use-events"
      (by decide +kernel) "Alex" []
    rw [hnone] at habove
    rw [Bool.eq_false_iff]
    intro hmay
    rcases habove.mp hmay with hstem | hother
    · exact absurd hstem (by decide +kernel)
    · cases hother
  · rw [huse.2.2.2 _ "timeline.use-" rfl, hnone]

end Permission

end CommandTimelines
