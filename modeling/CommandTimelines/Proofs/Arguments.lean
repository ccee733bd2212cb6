import CommandTimelines.Proofs.Numbering
import CommandTimelines.Proofs.Placeholders

/-!
# The arguments of a script

Arguments are texts that someone else chooses, and they may hold anything: quotes, slashes,
braces, line feeds, `#wait`. Where each line with a brace has fixed its command before the first
one (`Line.IsFirm`), they can do no more than become words of that command: two lists of
arguments of one length come to the same error or to queues that differ in the texts and the words
of their actions only (`Scope.outline_compile`).

A placeholder is filled, or not, whatever the arguments are (`bindFrom_alike`), and the text before
it is left as it is (`bindFrom_append`). So the lines that are read for the two lists begin with
the same text, and that is enough to tell the mark and the first word of a command
(`FixesCommand.read_append`).
-/

namespace CommandTimelines.Script

open Host Text

/-! ### What arguments leave alone -/

/-- An action without the texts that arguments may go into. -/
def Action.outline : Action → Action
  | .delay line milliseconds => .delay line milliseconds
  | .invoke line name command _ silent _ => .invoke line name command "" silent []
  | .deliver line key _ _ => .deliver line key "" []

/-- A result without the texts that arguments may go into. -/
def Compiled.outline : Compiled → Compiled
  | .ok actions => .ok (actions.map (·.outline))
  | .error error => .error error

/-- Whether a character is a brace. -/
def isBrace (c : Char) : Bool := c == '{' || c == '}'

/-- The text before the first brace. -/
def beforeBrace (text : List Char) : List Char := text.takeWhile (!isBrace ·)

/-- Whether there is a blank in a text after something else. -/
def HasWord (text : List Char) : Prop :=
  ∃ c d, isBlank c = false ∧ isBlank d = true ∧ [c, d].Sublist text

/-- A text that fixes the command of the line it stands at the beginning of: it opens neither a
quote nor an escape, it is the beginning of a command line, no mark can reach beyond it, and there
is a blank in it after something else, once the mark is taken off. -/
structure FixesCommand (specifiers : Specifiers) (front : List Char) : Prop where
  quote_not_mem : '"' ∉ front
  backslash_not_mem : '\\' ∉ front
  not_wait : ¬ waitMark <+: front
  not_require : ¬ requireMark <+: front
  /-- A text is as long as another one in characters, or else in bytes. -/
  mark_le : ∀ mark ∈ [specifiers.silent, specifiers.normal],
    mark.length ≤ front.length ∨ mark.utf8ByteSize ≤ (String.ofList front).utf8ByteSize
  has_word : HasWord (unmark specifiers front).2

/-- Whether a line has fixed its command before its first brace, if it has any brace. -/
def Line.IsFirm (specifiers : Specifiers) : Line → Prop
  | .comment => True
  | .text content => content.any isBrace = true → FixesCommand specifiers (beforeBrace content)

theorem hasWord_iff {text : List Char} :
  HasWord text ↔ (text.dropWhile isBlank).any isBlank = true
  := by
  rw [List.any_eq_true]
  constructor
  · rintro ⟨c, d, hc, hd, hsub⟩
    use d
    constructor
    · induction text with
      | nil => cases hsub
      | cons a text ih =>
        cases ha : isBlank a with
        | true =>
          rw [List.dropWhile_cons_of_pos ha]
          rcases List.cons_sublist_cons'.mp hsub with hsub | ⟨rfl, -⟩
          · exact ih hsub
          · rw [ha] at hc
            cases hc
        | false =>
          rw [List.dropWhile_cons_of_neg (by simp [ha])]
          exact hsub.subset (by simp)
    · exact hd
  · rintro ⟨d, hd, hblank⟩
    rcases hdrop : text.dropWhile isBlank with _ | ⟨c, rest⟩
    · rw [hdrop] at hd
      cases hd
    · have hc : isBlank c = false := by
        have hhead := List.head?_dropWhile_not isBlank text
        simpa [hdrop] using hhead
      rw [hdrop] at hd
      have hlater : d ∈ rest := by
        rcases List.mem_cons.mp hd with rfl | hd
        · rw [hc] at hblank
          cases hblank
        · exact hd
      refine ⟨c, d, hc, hblank, ?_⟩
      apply List.Sublist.trans _ (List.dropWhile_sublist isBlank)
      rw [hdrop]
      apply List.Sublist.cons_cons
      exact List.singleton_sublist.mpr hlater

instance (text : List Char) : Decidable (HasWord text) := decidable_of_iff' _ hasWord_iff

instance (specifiers : Specifiers) (front : List Char) :
    Decidable (FixesCommand specifiers front) :=
  decidable_of_iff
    ('"' ∉ front ∧ '\\' ∉ front ∧ ¬ waitMark <+: front ∧ ¬ requireMark <+: front
      ∧ (∀ mark ∈ [specifiers.silent, specifiers.normal], mark.length ≤ front.length
        ∨ mark.utf8ByteSize ≤ (String.ofList front).utf8ByteSize)
      ∧ HasWord (unmark specifiers front).2)
    ⟨fun ⟨hquote, hback, hwait, hrequire, hmark, hword⟩ =>
      ⟨hquote, hback, hwait, hrequire, hmark, hword⟩,
    fun ⟨hquote, hback, hwait, hrequire, hmark, hword⟩ =>
      ⟨hquote, hback, hwait, hrequire, hmark, hword⟩⟩

instance (specifiers : Specifiers) : (line : Line) → Decidable (line.IsFirm specifiers)
  | .comment => inferInstanceAs (Decidable True)
  | .text _ => inferInstanceAs (Decidable (_ → _))

theorem Compiled.outline_followedBy (r s : Compiled) :
  (r.followedBy s).outline = r.outline.followedBy s.outline
  := by
  cases r with
  | error error => rfl
  | ok p =>
    cases s with
    | error error => rfl
    | ok q => simp [outline, Except.map]

/-! ### Filling placeholders -/

/-- Two computations that fail alike or both give a result. -/
def Alike {ε α : Type} (x y : Except ε α) : Prop := x.map (fun _ => ()) = y.map fun _ => ()

/-- Computations that are alike, by cases. -/
theorem Alike.cases {ε α : Type} {x y : Except ε α} (h : Alike x y) :
  (∃ e, x = .error e ∧ y = .error e) ∨ ∃ a b, x = .ok a ∧ y = .ok b
  := by
  cases x with
  | error e =>
    cases y with
    | error e' =>
      obtain rfl : e = e' := by simpa [Alike, Except.map] using h
      exact .inl ⟨e, rfl, rfl⟩
    | ok b => cases h
  | ok a =>
    cases y with
    | error e => cases h
    | ok b => exact .inr ⟨a, b, rfl, rfl⟩

theorem Alike.bind {ε α β : Type} {x y : Except ε α} (h : Alike x y) {f g : α → Except ε β}
    (hfg : ∀ a b, Alike (f a) (g b)) :
  Alike (x >>= f) (y >>= g)
  := by
  obtain ⟨e, rfl, rfl⟩ | ⟨a, b, rfl, rfl⟩ := h.cases
  · rfl
  · exact hfg a b

section

variable {p q : List String} (h : p.length = q.length)
include h

/-- Whether a placeholder can be filled depends only on how many arguments there are. -/
theorem argument_alike (column : Nat) (digits : List Char) :
  Alike (argument p column digits) (argument q column digits)
  := by
  rw [argument, argument]
  cases unsignedWord? digits with
  | none => rfl
  | some index =>
    by_cases hindex : index < p.length
    · have hother : index < q.length := h ▸ hindex
      simp [hindex, hother, Alike, Except.map]
    · have hother : ¬ index < q.length := h ▸ hindex
      simp [hother, h, Alike, Except.map]

theorem bindFrom_alike (text : List Char) :
  ∀ column mode, Alike (bindFrom p column mode text) (bindFrom q column mode text)
  := by
  intro column mode
  fun_induction bindFrom p column mode text with
  | case1 => rfl
  | case2 column r ih =>
    rw [bindFrom]
    apply ih.bind
    intro v w
    rfl
  | case3 column r ih =>
    rw [bindFrom]
    apply ih.bind
    intro v w
    rfl
  | case4 column r hdouble hclose ih =>
    rw [bindFrom_single q column hdouble hclose, if_pos rfl]
    exact ih
  | case5 column r hopen hdouble hne =>
    rw [bindFrom_single q column hopen hdouble, if_neg hne, if_pos rfl]
    rfl
  | case6 column c r hdouble hclose hopen hne ih =>
    rw [bindFrom_single q column hdouble hclose, if_neg hopen, if_neg hne]
    apply ih.bind
    intro v w
    rfl
  | case7 column start digits =>
    rw [bindFrom]
    rfl
  | case8 column start digits r ih =>
    rw [bindFrom, if_pos rfl]
    apply (argument_alike h start digits).bind
    intro v w
    apply ih.bind
    intro v' w'
    rfl
  | case9 column start digits c r hne ih =>
    rw [bindFrom, if_neg hne]
    exact ih

end

/-- A text without braces is made of pieces that stand for themselves. -/
theorem pieces_of_not_isBrace {params : List String} {text : List Char}
    (h : ∀ c ∈ text, isBrace c = false) :
  Pieces params text text
  := by
  induction text with
  | nil => exact .nil
  | cons c rest ih =>
    have hc : ¬ c = '{' ∧ ¬ c = '}' := by
      simpa [isBrace] using h c List.mem_cons_self
    exact .cons (.plain hc.1 hc.2) (ih fun d hd => h d (List.mem_cons_of_mem c hd))

/-- What stands before the first brace is left as it is, whatever the arguments are. -/
theorem bindFrom_append {front : List Char} (h : ∀ c ∈ front, isBrace c = false)
    (rest : List Char) (column : Nat) :
  ∃ next, ∀ params, bindFrom params column .outside (front ++ rest)
    = (bindFrom params next .outside rest).map (front ++ ·)
  := by
  use column + (String.ofList front).utf8ByteSize
  intro params
  apply (pieces_of_not_isBrace h).bindFrom_append

/-- A text without braces is left as it is. -/
theorem bindChars_eq {text : List Char} (h : ∀ c ∈ text, isBrace c = false)
    (params : List String) :
  bindChars params text = .ok text
  := (pieces_of_not_isBrace h).bindFrom_eq 1

/-! ### Marks and words -/

section

variable {specifiers : Specifiers} {front : List Char}

/-- No mark reaches beyond a text that is as long. -/
theorem FixesCommand.prefix_iff (h : FixesCommand specifiers front) {mark : String}
    (hmark : mark ∈ [specifiers.silent, specifiers.normal]) (rest : List Char) :
  mark.toList <+: front ++ rest ↔ mark.toList <+: front
  := by
  constructor
  · intro hlong
    rcases List.prefix_or_prefix_of_prefix hlong (List.prefix_append front rest) with
      hfront | ⟨more, hmore⟩
    · exact hfront
    · -- What is left of the mark beyond the text has no length.
      have hnil : more = [] := by
        rcases h.mark_le mark hmark with hle | hle
        · rw [← String.length_toList, ← hmore, List.length_append] at hle
          exact List.eq_nil_of_length_eq_zero (by omega)
        · have hbytes : mark = String.ofList front ++ String.ofList more := by
            rw [← String.ofList_append, hmore, String.ofList_toList]
          rw [hbytes, String.utf8ByteSize_append] at hle
          have hzero : (String.ofList more).utf8ByteSize = 0 := by omega
          exact String.ofList_eq_empty_iff.mp (String.utf8ByteSize_eq_zero_iff.mp hzero)
      rw [← hmore, hnil, List.append_nil]
  · intro hfront
    exact hfront.trans (List.prefix_append front rest)

theorem FixesCommand.dropMark?_append (h : FixesCommand specifiers front) {mark : String}
    (hmark : mark ∈ [specifiers.silent, specifiers.normal]) (rest : List Char) :
  dropMark? mark (front ++ rest) = (dropMark? mark front).map (· ++ rest)
  := by
  rw [dropMark?, dropMark?]
  split
  · rfl
  · cases hfront : mark.toList.isPrefixOf? front with
    | some more =>
      obtain rfl := List.isPrefixOf?_eq_some_iff_append_eq.mp hfront
      rw [List.append_assoc]
      exact List.isPrefixOf?_eq_some_iff_append_eq.mpr rfl
    | none =>
      apply isPrefixOf?_eq_none
      intro hprefix
      obtain ⟨more, hmore⟩ := (h.prefix_iff hmark rest).mp hprefix
      rw [List.isPrefixOf?_eq_some_iff_append_eq.mpr hmore] at hfront
      cases hfront

/-- The mark of a line is found in its firm beginning. -/
theorem FixesCommand.unmark_append (h : FixesCommand specifiers front) (rest : List Char) :
  unmark specifiers (front ++ rest)
    = ((unmark specifiers front).1, (unmark specifiers front).2 ++ rest)
  := by
  rw [unmark, unmark, h.dropMark?_append (by simp), h.dropMark?_append (by simp)]
  cases dropMark? specifiers.silent front with
  | some more => rfl
  | none =>
    cases dropMark? specifiers.normal front with
    | some more => rfl
    | none => rfl

theorem unmark_suffix (specifiers : Specifiers) (line : List Char) :
  (unmark specifiers line).2 <:+ line
  := by
  have hdrop : ∀ mark rest, dropMark? mark line = some rest → rest <:+ line := by
    intro mark rest h
    rw [dropMark?] at h
    split at h
    · cases h
    · exact ⟨mark.toList, List.isPrefixOf?_eq_some_iff_append_eq.mp h⟩
  rw [unmark]
  cases hsilent : dropMark? specifiers.silent line with
  | some rest => exact hdrop _ _ hsilent
  | none =>
    cases hnormal : dropMark? specifiers.normal line with
    | some rest => exact hdrop _ _ hnormal
    | none => exact List.suffix_refl line

/-- A text with a blank in it is no beginning of a word with one blank behind it, unless it has
all of that at its own beginning. -/
theorem not_prefix_append {word : List Char} (hword : word.all (!isBlank ·) = true) {d : Char}
    (hd : d ∈ front) (hblank : isBlank d = true) (hfront : ¬ word ++ [' '] <+: front)
    (rest : List Char) :
  ¬ word ++ [' '] <+: front ++ rest
  := by
  intro hlong
  rcases List.prefix_or_prefix_of_prefix hlong (List.prefix_append front rest) with h | h
  · exact hfront h
  · rcases List.prefix_concat_iff.mp h with hall | hword'
    · apply hfront
      rw [hall]
    · have hnot := List.all_eq_true.mp hword d (hword'.subset hd)
      rw [hblank] at hnot
      cases hnot

end

namespace Words

/-- A word that has begun ends at the first blank. -/
theorem exists_splitFrom_of_blank {front : List Char} (hquote : '"' ∉ front)
    (hback : '\\' ∉ front) (hblank : ∃ d ∈ front, isBlank d = true) :
  ∀ word, word ≠ [] →
    ∃ first, ∀ rest, ∃ later, splitFrom word false (front ++ rest) = first :: later
  := by
  induction front with
  | nil =>
    obtain ⟨d, hd, -⟩ := hblank
    cases hd
  | cons c front ih =>
    intro word hword
    obtain ⟨hquoteHead, hquoteRest⟩ := not_or.mp (mt List.mem_cons.mpr hquote)
    obtain ⟨hbackHead, hbackRest⟩ := not_or.mp (mt List.mem_cons.mpr hback)
    have hread := splitFrom_cons (Ne.symm hquoteHead) (Ne.symm hbackHead)
    cases hc : isBlank c with
    | true =>
      use word
      intro rest
      use splitFrom [] false (front ++ rest)
      rw [List.cons_append, hread, if_pos hc, ended, if_neg hword]
      rfl
    | false =>
      have hlater : ∃ d ∈ front, isBlank d = true := by
        obtain ⟨d, hd, hdblank⟩ := hblank
        rcases List.mem_cons.mp hd with rfl | hd
        · rw [hc] at hdblank
          cases hdblank
        · exact ⟨d, hd, hdblank⟩
      obtain ⟨first, hfirst⟩ := ih hquoteRest hbackRest hlater (word ++ [c]) (by simp)
      use first
      intro rest
      obtain ⟨later, hrest⟩ := hfirst rest
      use later
      rw [List.cons_append, hread, hc, if_neg Bool.false_ne_true, hrest]

/-- The first word of a line is told by a beginning of the line that has a word and a blank after
it. -/
theorem exists_split_append {front : List Char} (hquote : '"' ∉ front) (hback : '\\' ∉ front)
    (hword : HasWord front) :
  ∃ first, ∀ rest, ∃ later, split (front ++ rest) = first :: later
  := by
  induction front with
  | nil =>
    obtain ⟨c, d, -, -, hsub⟩ := hword
    cases hsub
  | cons a front ih =>
    obtain ⟨hquoteHead, hquoteRest⟩ := not_or.mp (mt List.mem_cons.mpr hquote)
    obtain ⟨hbackHead, hbackRest⟩ := not_or.mp (mt List.mem_cons.mpr hback)
    have hread := splitFrom_cons (Ne.symm hquoteHead) (Ne.symm hbackHead) []
    obtain ⟨c, d, hc, hd, hsub⟩ := hword
    cases ha : isBlank a with
    | true =>
      have hlater : [c, d].Sublist front := by
        rcases List.cons_sublist_cons'.mp hsub with hlater | ⟨rfl, -⟩
        · exact hlater
        · rw [ha] at hc
          cases hc
      obtain ⟨first, hfirst⟩ := ih hquoteRest hbackRest ⟨c, d, hc, hd, hlater⟩
      use first
      intro rest
      obtain ⟨later, hrest⟩ := hfirst rest
      use later
      rw [split, List.cons_append, hread, if_pos ha]
      exact hrest
    | false =>
      have hlater : d ∈ front := by
        rcases List.cons_sublist_cons'.mp hsub with hlater | ⟨-, hlater⟩
        · exact hlater.subset (by simp)
        · exact hlater.subset (by simp)
      obtain ⟨first, hfirst⟩ :=
        exists_splitFrom_of_blank hquoteRest hbackRest ⟨d, hlater, hd⟩ [a] (by simp)
      use first
      intro rest
      obtain ⟨later, hrest⟩ := hfirst rest
      use later
      rw [split, List.cons_append, hread, ha, if_neg Bool.false_ne_true]
      exact hrest

end Words

/-- The command of a line is told by its firm beginning. -/
theorem FixesCommand.read_append {specifiers : Specifiers} {front : List Char}
    (h : FixesCommand specifiers front) :
  ∃ silent name, ∀ rest, ∃ text args, Directive.read specifiers (front ++ rest)
    = .ok (.command { silent, text, name, args })
  := by
  have hsuffix := unmark_suffix specifiers front
  obtain ⟨c, d, hc, hd, hsub⟩ := h.has_word
  have hmem : d ∈ front := hsuffix.subset (hsub.subset (by simp))
  have hwaitWord : ['#', 'w', 'a', 'i', 't'].all (!isBlank ·) = true := by decide
  have hrequireWord : ['#', 'r', 'e', 'q'].all (!isBlank ·) = true := by decide
  have hwait : ∀ rest, waitMark.isPrefixOf? (front ++ rest) = none := fun rest =>
    isPrefixOf?_eq_none (not_prefix_append hwaitWord hmem hd h.not_wait rest)
  have hrequire : ∀ rest, requireMark.isPrefixOf? (front ++ rest) = none := fun rest =>
    isPrefixOf?_eq_none (not_prefix_append hrequireWord hmem hd h.not_require rest)
  obtain ⟨first, hfirst⟩ := Words.exists_split_append
    (fun hmem => h.quote_not_mem (hsuffix.subset hmem))
    (fun hmem => h.backslash_not_mem (hsuffix.subset hmem)) h.has_word
  use (unmark specifiers front).1, lower (String.ofList first)
  intro rest
  obtain ⟨later, hlater⟩ := hfirst rest
  use String.ofList ((unmark specifiers front).2 ++ rest), later.map String.ofList
  simp only [Directive.read, hwait, hrequire, Directive.ofCommandLine, h.unmark_append, hlater]

/-! ### Compiling for two lists of arguments -/

namespace Scope

variable {R : Type} (scope : Scope R)

theorem fill_of_not_isBrace {text : List Char} (h : ∀ c ∈ text, isBrace c = false)
    (number : Nat) :
  scope.fill number text = .ok text
  := by
  rw [fill, bindChars_eq h]
  split <;> rfl

/-- A line cannot be filled with either of two lists of arguments, and for the same reason, or else
it begins with the same text for both. -/
theorem fill_alike {p q : List String} (hlength : p.length = q.length) (text : List Char)
    (number : Nat) :
  (∃ error, { scope with params := p }.fill number text = .error error
    ∧ { scope with params := q }.fill number text = .error error)
  ∨ ∃ v w, { scope with params := p }.fill number text = .ok (beforeBrace text ++ v)
    ∧ { scope with params := q }.fill number text = .ok (beforeBrace text ++ w)
  := by
  have hfront : ∀ c ∈ beforeBrace text, isBrace c = false := by
    intro c hc
    simpa using List.mem_takeWhile_imp hc
  obtain ⟨next, hnext⟩ := bindFrom_append hfront (text.dropWhile (!isBrace ·)) 1
  have htext : beforeBrace text ++ text.dropWhile (!isBrace ·) = text :=
    List.takeWhile_append_dropWhile
  rw [htext] at hnext
  by_cases hp : p = []
  · have hq : q = [] := List.eq_nil_of_length_eq_zero (by rw [← hlength, hp]; rfl)
    right
    use text.dropWhile (!isBrace ·), text.dropWhile (!isBrace ·)
    rw [htext, hp, hq]
    exact ⟨rfl, rfl⟩
  · have hq : q ≠ [] := by
      rintro rfl
      exact hp (List.eq_nil_of_length_eq_zero hlength)
    rw [fill, fill, if_neg hp, if_neg hq, bindChars, bindChars, hnext p, hnext q]
    obtain ⟨fault, hpfault, hqfault⟩ | ⟨v, w, hpok, hqok⟩ :=
      (bindFrom_alike hlength (text.dropWhile (!isBrace ·)) next .outside).cases
    · left
      rw [hpfault, hqfault]
      exact ⟨_, rfl, rfl⟩
    · right
      rw [hpok, hqok]
      exact ⟨v, w, rfl, rfl⟩

variable [Resolver R]

/-- What a command line does depends on its name and its mark, texts and words apart. -/
theorem outline_actionsOf (line other : CommandLine) (hsilent : line.silent = other.silent)
    (hname : line.name = other.name) (number : Nat) :
  Compiled.outline (scope.actionsOf number line) = Compiled.outline (scope.actionsOf number other)
  := by
  rw [actionsOf, actionsOf, hname, hsilent]
  split
  · rfl
  · split
    · simp [Compiled.outline, Action.outline, Function.comp_def]
    · rfl

/-- What a line with a command comes to, whatever it is filled to. -/
theorem compileText_of_command {number : Nat} {text filled : List Char} {line : CommandLine}
    (hfill : scope.fill number text = .ok filled)
    (hread : Directive.read scope.specifiers filled (Resolver.split scope.commands)
      = .ok (.command line)) :
  scope.compileText number text = scope.actionsOf number line
  := by
  rw [compileText, hfill]
  simp only [Bind.bind, Except.bind, hread]

variable (hsplit : Resolver.split scope.commands = Words.split)
  {p q : List String} (hlength : p.length = q.length)
include hsplit hlength

/-- A line comes to the same for two lists of arguments, up to texts and words. -/
theorem outline_compileText {text : List Char}
    (hfirm : text.any isBrace = true → FixesCommand scope.specifiers (beforeBrace text))
    (number : Nat) :
  Compiled.outline ({ scope with params := p }.compileText number text)
    = Compiled.outline ({ scope with params := q }.compileText number text)
  := by
  cases hbrace : text.any isBrace with
  | false =>
    have hnone : ∀ c ∈ text, isBrace c = false := by
      simpa using hbrace
    rw [compileText, compileText, fill_of_not_isBrace _ hnone, fill_of_not_isBrace _ hnone]
    rfl
  | true =>
    obtain ⟨silent, name, hread⟩ := (hfirm hbrace).read_append
    obtain ⟨error, hp, hq⟩ | ⟨v, w, hp, hq⟩ := scope.fill_alike hlength text number
    · rw [compileText, compileText, hp, hq]
      rfl
    · obtain ⟨ptext, pargs, hpread⟩ := hread v
      obtain ⟨qtext, qargs, hqread⟩ := hread w
      rw [← hsplit] at hpread hqread
      rw [compileText_of_command _ hp hpread, compileText_of_command _ hq hqread]
      exact scope.outline_actionsOf ⟨silent, ptext, name, pargs⟩ ⟨silent, qtext, name, qargs⟩
        rfl rfl number

/-- A line of a script comes to the same for two lists of arguments, up to texts and words. -/
theorem outline_compileLine {line : List Char} (hfirm : (Line.read line).IsFirm scope.specifiers)
    (number : Nat) :
  Compiled.outline ({ scope with params := p }.compileLine number line)
    = Compiled.outline ({ scope with params := q }.compileLine number line)
  := by
  rw [compileLine, compileLine]
  cases hread : Line.read line with
  | comment => rfl
  | text text =>
    rw [hread] at hfirm
    exact scope.outline_compileText hsplit hlength hfirm number

theorem outline_compileLines {ls : List (List Char)}
    (hfirm : ∀ line ∈ ls, (Line.read line).IsFirm scope.specifiers) :
  ∀ number, Compiled.outline ({ scope with params := p }.compileLines number ls)
    = Compiled.outline ({ scope with params := q }.compileLines number ls)
  := by
  induction ls with
  | nil =>
    intro number
    rfl
  | cons l ls ih =>
    intro number
    have hline := scope.outline_compileLine hsplit hlength (hfirm l List.mem_cons_self) number
    have hrest := ih (fun line hline => hfirm line (List.mem_cons_of_mem l hline)) (number + 1)
    rw [compileLines_cons, compileLines_cons, Compiled.outline_followedBy,
      Compiled.outline_followedBy, hline, hrest]

theorem outline_compileScript {ls : List (List Char)}
    (hfirm : ∀ line ∈ ls, (Line.read line).IsFirm scope.specifiers) :
  ∀ number, Compiled.outline ({ scope with params := p }.compileScript number ls)
    = Compiled.outline ({ scope with params := q }.compileScript number ls)
  := by
  induction ls with
  | nil =>
    intro number
    rfl
  | cons l ls ih =>
    intro number
    have hrest : ∀ line ∈ ls, (Line.read line).IsFirm scope.specifiers :=
      fun line hline => hfirm line (List.mem_cons_of_mem l hline)
    have hscript := ih hrest (number + 1)
    have hlater := scope.outline_compileLines hsplit hlength hrest (number + 1)
    have hbody := scope.outline_compileLines hsplit hlength hfirm number
    rw [compileScript, compileScript]
    cases Line.read l with
    | comment => exact hscript
    | text content =>
      simp only
      split
      · exact hscript
      · split
        · -- The header counts the arguments and does not read them.
          simp only [hlength]
          split
          · rfl
          · exact hlater
        · exact hbody

/-- The values of arguments cannot change what a timeline does. Let every line of a script that
has a brace be firm up to its first brace. For two lists of arguments of one length the script
then cannot be compiled and for the same reason, or can be compiled to queues that agree action
by action in everything but the texts and the words of the actions: the lines, the kinds, the
delays, the commands by name and by handler, the keys of responses and what is silent. -/
theorem outline_compile (raw : String)
    (hfirm : ∀ line ∈ lines raw.toList, (Line.read line).IsFirm scope.specifiers) :
  Compiled.outline ({ scope with params := p }.compile raw)
    = Compiled.outline ({ scope with params := q }.compile raw)
  := scope.outline_compileScript hsplit hlength hfirm 1

omit hsplit hlength in
/-- A command, a wait and a response, run with arguments that would break the lines they go into,
and with harmless ones. -/
theorem outline_compile_say :
  let say : Command := { given := ["say"] }
  let raw := "/say to \x7b0\x7d\n#wait 5\nyes it is \x7b1\x7d"
  let p := ["\" // \n#wait 9", "\x7b0\x7d \\"]
  let q := ["you", "so"]
  let scope (params : List String) : Scope :=
    { name := "show", params, commands := [say], specifiers := {} }
  (∀ line ∈ lines raw.toList, (Line.read line).IsFirm {}) ∧ p.length = q.length
    ∧ Compiled.outline ((scope p).compile raw) = Compiled.outline ((scope q).compile raw)
    ∧ Compiled.outline ((scope q).compile raw)
      = .ok [.invoke 1 "say" say "" false [], .delay 2 5, .deliver 3 "yes" "" []]
  := by
  intro say raw p q scope
  have hfirm : ∀ line ∈ lines raw.toList, (Line.read line).IsFirm {} := by decide +kernel
  have hlength : p.length = q.length := rfl
  exact ⟨hfirm, hlength, outline_compile (scope []) rfl hlength raw hfirm, by decide +kernel⟩

end Scope

end CommandTimelines.Script
