import CommandTimelines.Text.Lowercase
import Mathlib

/-!
# What lower-casing keeps

Lower-casing may make a text longer, and what it makes of a sigma depends on the letters around it.
But it drops no character (`length_le_lowerFrom`), it neither takes out nor brings in any of the
characters before the small letters but the capital ones (`count_lowerFrom`), and a beginning of
ASCII characters is lower-cased by itself (`lowerFrom_append_of_ascii`).

No character moves to one that moves (`avoids_of_mem_lowerRuns`), so a lower-cased text is made of
characters that stay as they are (`isSettled_of_mem_lowerFrom`). A text differs from it in the case of
ASCII letters only if these are all that lower-casing changes in the text (`lower_eq_lowerAscii`).
-/

namespace CommandTimelines.Text

/-- Whether a character comes before the small letters and is no capital one. -/
def IsCaseless (c : Char) : Prop := 0 < c.toNat ∧ c.toNat < 'a'.toNat ∧ c.isUpper = false

instance (c : Char) : Decidable (IsCaseless c) :=
  inferInstanceAs (Decidable (_ ∧ _ ∧ _))

/-- No character moves to a place before the small letters. -/
theorem lt_of_mem_lowerRuns :
  ∀ r ∈ lowerRuns, (0x60 : Int) < r.first + r.shift
  := by decide +kernel

/-- What a character of a run moves to is no character before the small letters. -/
theorem CaseRun.ofNat_ne {r : CaseRun} (hr : r ∈ lowerRuns) {n : Nat} (hcovers : r.covers n = true)
    {x : Char} (hx : IsCaseless x) :
  Char.ofNat (n + r.shift).toNat ≠ x
  := by
  obtain ⟨hpos, hbefore, -⟩ := hx
  have hrun := lt_of_mem_lowerRuns r hr
  have hfirst : r.first ≤ n := by
    simp only [covers, Bool.and_eq_true, decide_eq_true_eq] at hcovers
    exact hcovers.1.1
  rintro rfl
  rw [Char.toNat_ofNat] at hpos hbefore
  split at hbefore
  · have ha : 'a'.toNat = 0x61 := rfl
    omega
  · rename_i hinvalid
    rw [if_neg hinvalid] at hpos
    exact Nat.lt_irrefl 0 hpos

/-- A capital letter becomes a small one. -/
theorem toNat_toLower_of_isUpper {c : Char} (h : c.isUpper = true) :
  'a'.toNat ≤ c.toLower.toNat ∧ c.toLower.toNat ≤ 'z'.toNat
  := by
  have hlower : c.toLower.isLower = true := by
    rw [Char.isLower_toLower_eq_isAlpha, Char.isAlpha, h, Bool.true_or]
  simp only [Char.isLower, Bool.and_eq_true, decide_eq_true_eq] at hlower
  exact hlower

theorem toLower_eq_iff {x : Char} (hx : IsCaseless x) (c : Char) :
  c.toLower = x ↔ c = x
  := by
  obtain ⟨-, hbefore, hupper⟩ := hx
  cases hc : c.isUpper with
  | false => rw [Char.toLower_eq_of_not_isUpper (by simp [hc])]
  | true =>
    constructor
    · rintro rfl
      exact absurd hbefore (Nat.not_lt_of_le (toNat_toLower_of_isUpper hc).1)
    · rintro rfl
      rw [hc] at hupper
      cases hupper

/-- A character before the small letters comes from itself and from nothing else. -/
theorem count_lowerChar {x : Char} (hx : IsCaseless x) (c : Char) :
  (lowerChar c).count x = [c].count x
  := by
  have hsmall : x.toNat < 0x80 := Nat.lt_trans hx.2.1 (by decide)
  rw [lowerChar]
  split
  · by_cases hc : c = x
    · rw [(toLower_eq_iff hx c).mpr hc, hc]
    · rw [List.count_singleton, List.count_singleton, beq_false_of_ne hc,
        beq_false_of_ne (mt (toLower_eq_iff hx c).mp hc)]
  · rename_i hlarge
    have hc : c ≠ x := by
      rintro rfl
      exact hlarge hsmall
    have hnone : [c].count x = 0 := List.count_eq_zero.mpr (by simpa using Ne.symm hc)
    split
    · rw [hnone]
      apply List.count_eq_zero.mpr
      intro hmem
      have hbefore := hx.2.1
      rcases List.mem_cons.mp hmem with rfl | hmem
      · exact absurd hbefore (by decide)
      · rw [List.mem_singleton.mp hmem] at hbefore
        exact absurd hbefore (by decide)
    · split
      · rename_i r hfind
        rw [hnone]
        apply List.count_eq_zero.mpr
        rw [List.mem_singleton]
        exact (CaseRun.ofNat_ne (List.mem_of_find?_eq_some hfind)
          (by simpa using List.find?_some hfind) hx).symm
      · rfl

theorem lowerChar_ne_nil (c : Char) :
  lowerChar c ≠ []
  := by
  rw [lowerChar]
  split
  · exact List.cons_ne_nil _ _
  · split
    · exact List.cons_ne_nil _ _
    · split <;> exact List.cons_ne_nil _ _

/-- Lower-casing neither takes out nor brings in a character before the small letters. -/
theorem count_lowerFrom {x : Char} (hx : IsCaseless x) (s : List Char) :
  ∀ before, (lowerFrom before s).count x = s.count x
  := by
  induction s with
  | nil =>
    intro before
    rfl
  | cons c r ih =>
    intro before
    rw [lowerFrom, ← List.singleton_append (l := r), List.count_append]
    split
    · rename_i hsigma
      have hlate : ∀ d : Char, 'a'.toNat ≤ d.toNat → [d].count x = 0 := by
        intro d hd
        apply List.count_eq_zero.mpr
        rw [List.mem_singleton]
        rintro rfl
        exact Nat.not_lt_of_le hd hx.2.1
      rw [hsigma, hlate 'Σ' (by decide), ← List.singleton_append (l := lowerFrom _ _),
        List.count_append, ih]
      congr 1
      split
      · exact hlate 'ς' (by decide)
      · exact hlate 'σ' (by decide)
    · rw [List.count_append, count_lowerChar hx, ih]

/-- Lower-casing makes no text shorter. -/
theorem length_le_lowerFrom (s : List Char) :
  ∀ before, s.length ≤ (lowerFrom before s).length
  := by
  induction s with
  | nil =>
    intro before
    exact Nat.le_refl 0
  | cons c r ih =>
    intro before
    have hrest := ih (c :: before)
    have hpos := List.length_pos_iff.mpr (lowerChar_ne_nil c)
    rw [lowerFrom]
    split
    · rw [List.length_cons, List.length_cons]
      omega
    · rw [List.length_cons, List.length_append]
      omega

/-- ASCII characters are lower-cased by themselves. -/
theorem lowerFrom_append_of_ascii {p : List Char} (h : ∀ c ∈ p, c.toNat < 0x80) (s : List Char) :
  ∀ before, lowerFrom before (p ++ s) = p.map Char.toLower ++ lowerFrom (p.reverse ++ before) s
  := by
  induction p with
  | nil =>
    intro before
    rfl
  | cons c p ih =>
    intro before
    obtain ⟨hc, hp⟩ := List.forall_mem_cons.mp h
    have hsigma : c ≠ 'Σ' := by
      rintro rfl
      exact absurd hc (by decide)
    rw [List.cons_append, lowerFrom, if_neg hsigma, lowerChar, if_pos hc, ih hp, List.map_cons,
      List.reverse_cons, List.append_assoc]
    rfl

/-! ### What characters move to -/

/-- What the characters of a run move to, as a run that moves back. -/
def CaseRun.image (r : CaseRun) : CaseRun :=
  ⟨(r.first + r.shift).toNat, (r.last + r.shift).toNat, r.stride, -r.shift⟩

/-- Whether two runs are one behind the other, or hold numbers of different parity. -/
def CaseRun.avoids (r other : CaseRun) : Bool :=
  r.last.blt other.first || other.last.blt r.first ||
    ((r.stride.beq 2 || r.first.beq r.last) && other.stride.beq 2
      && ((r.first + other.first) % 2).beq 1)

/-- The run of the one character whose lower case has two characters. -/
def dottedRun : CaseRun := ⟨0x130, 0x130, 1, 0⟩

/-- No character moves to one that moves. -/
theorem avoids_of_mem_lowerRuns :
  lowerRuns.all fun r => (dottedRun :: lowerRuns).all r.image.avoids
  := by decide +kernel

theorem CaseRun.covers_iff {r : CaseRun} {n : Nat} :
  r.covers n ↔ r.first ≤ n ∧ n ≤ r.last ∧ (n - r.first) % r.stride = 0
  := by
  simp [covers, and_assoc]

theorem CaseRun.covers_image {r : CaseRun} (hr : r ∈ lowerRuns) {n : Nat} (h : r.covers n) :
  r.image.covers (n + r.shift).toNat
  := by
  have hrun := lt_of_mem_lowerRuns r hr
  obtain ⟨hfirst, hlast, hstride⟩ := covers_iff.mp h
  have hstep : (n + r.shift).toNat - (r.first + r.shift).toNat = n - r.first := by omega
  rw [covers_iff]
  simp only [image, hstep]
  exact ⟨by omega, by omega, hstride⟩

theorem CaseRun.not_covers_of_avoids {r other : CaseRun} (h : r.avoids other) {n : Nat}
    (hn : r.covers n) :
  ¬ other.covers n
  := by
  intro hother
  rw [covers_iff] at hn hother
  simp only [avoids, Bool.or_eq_true, Bool.and_eq_true, Nat.blt_eq, Nat.beq_eq] at h
  obtain ⟨hfirst, hlast, hstride⟩ := hn
  obtain ⟨hfirst', hlast', hstride'⟩ := hother
  rcases h with (hbehind | hbefore) | ⟨⟨hsparse, htwo⟩, hparity⟩
  · omega
  · omega
  · rw [htwo] at hstride'
    rcases hsparse with hstride₂ | hsingle
    · rw [hstride₂] at hstride
      omega
    · omega

/-- Whether a character stays as it is wherever it stands in a text that is lower-cased. -/
def IsSettled (c : Char) : Prop := c ≠ 'Σ' ∧ lowerChar c = [c]

theorem exists_covers_sigma :
  ∃ r ∈ lowerRuns, r.covers 'Σ'.toNat
  := by decide +kernel

theorem toNat_toLower_lt {c : Char} (h : c.toNat < 0x80) :
  c.toLower.toNat < 0x80
  := by
  cases hc : c.isUpper with
  | false => rwa [Char.toLower_eq_of_not_isUpper (by simp [hc])]
  | true =>
    exact Nat.lt_of_le_of_lt (toNat_toLower_of_isUpper hc).2 (by decide)

theorem isSettled_of_ascii {c : Char} (h : c.toNat < 0x80) (hupper : c.isUpper = false) :
  IsSettled c
  := by
  constructor
  · rintro rfl
    exact absurd h (by decide)
  · rw [lowerChar, if_pos h, Char.toLower_eq_of_not_isUpper (by simp [hupper])]

theorem isSettled_of_not_covers {c : Char} (hupper : c.isUpper = false)
    (h : ∀ r ∈ dottedRun :: lowerRuns, ¬ r.covers c.toNat) :
  IsSettled c
  := by
  obtain ⟨hdotted, hruns⟩ := List.forall_mem_cons.mp h
  have hfind : lowerRuns.find? (·.covers c.toNat) = none := List.find?_eq_none.mpr hruns
  have hdot : c.toNat ≠ 0x130 := by
    intro hdot
    rw [hdot] at hdotted
    exact absurd rfl hdotted
  by_cases hascii : c.toNat < 0x80
  · exact isSettled_of_ascii hascii hupper
  · constructor
    · rintro rfl
      obtain ⟨r, hr, hcovers⟩ := exists_covers_sigma
      exact hruns r hr hcovers
    · rw [lowerChar, if_neg hascii, if_neg hdot, hfind]

/-- What a character of a run moves to is settled. -/
theorem isSettled_of_covers {r : CaseRun} (hr : r ∈ lowerRuns) {n : Nat} (h : r.covers n) :
  IsSettled (Char.ofNat (n + r.shift).toNat)
  := by
  have hlow := lt_of_mem_lowerRuns r hr
  have hfirst := (CaseRun.covers_iff.mp h).1
  have hmoved := Char.toNat_ofNat (n + r.shift).toNat
  split at hmoved
  · apply isSettled_of_not_covers
    · have hvalue : (Char.ofNat (n + r.shift).toNat).val.toNat = (n + r.shift).toNat := hmoved
      have hZ : 'Z'.val.toNat = 0x5A := rfl
      simp only [Char.isUpper, decide_eq_false_iff_not, UInt32.le_iff_toNat_le]
      omega
    · rw [hmoved]
      intro other hother
      have havoids := List.all_eq_true.mp (List.all_eq_true.mp avoids_of_mem_lowerRuns r hr)
      exact CaseRun.not_covers_of_avoids (havoids other hother) (CaseRun.covers_image hr h)
  · have hnull : Char.ofNat (n + r.shift).toNat = '\x00' := Char.toNat_inj.mp hmoved
    rw [hnull]
    exact isSettled_of_ascii (by decide) rfl

/-- The characters that lower-casing writes by a rule of their own. -/
theorem isSettled_of_mem {c : Char} (h : c ∈ ['i', '\u0307', 'σ', 'ς']) :
  IsSettled c
  := by
  have hall : ['i', '\u0307', 'σ', 'ς'].all fun d => !d.isUpper
      && (dottedRun :: lowerRuns).all fun r => !r.covers d.toNat := by decide +kernel
  have hc := List.all_eq_true.mp hall c h
  rw [Bool.and_eq_true, Bool.not_eq_true', List.all_eq_true] at hc
  apply isSettled_of_not_covers hc.1
  intro r hr
  simpa using hc.2 r hr

theorem isSettled_of_mem_lowerChar {c d : Char} (hc : c ≠ 'Σ') (h : d ∈ lowerChar c) :
  IsSettled d
  := by
  rw [lowerChar] at h
  split at h
  · rename_i hascii
    rw [List.mem_singleton.mp h]
    exact isSettled_of_ascii (toNat_toLower_lt hascii) (Char.isUpper_toLower_eq_false c)
  · split at h
    · exact isSettled_of_mem (List.mem_append_left ['σ', 'ς'] h)
    · split at h
      · rename_i r hfind
        rw [List.mem_singleton.mp h]
        have hcovers : r.covers c.toNat := by simpa using List.find?_some hfind
        exact isSettled_of_covers (List.mem_of_find?_eq_some hfind) hcovers
      · rename_i hascii hdotted _ hfind
        obtain rfl := List.mem_singleton.mp h
        refine ⟨hc, ?_⟩
        rw [lowerChar, if_neg hascii, if_neg hdotted, hfind]

/-- All characters of a lower-cased text are settled. -/
theorem isSettled_of_mem_lowerFrom (s : List Char) :
  ∀ before, ∀ d ∈ lowerFrom before s, IsSettled d
  := by
  induction s with
  | nil =>
    intro before d hd
    cases hd
  | cons c r ih =>
    intro before d hd
    rw [lowerFrom] at hd
    split at hd
    · rcases List.mem_cons.mp hd with rfl | hd
      · apply isSettled_of_mem
        split <;> simp
      · exact ih _ d hd
    · rename_i hc
      rcases List.mem_append.mp hd with hd | hd
      · exact isSettled_of_mem_lowerChar hc hd
      · exact ih _ d hd

theorem toLower_eq_of_not_ascii {c : Char} (h : ¬ c.toNat < 0x80) :
  c.toLower = c
  := by
  apply Char.toLower_eq_of_not_isUpper
  intro hupper
  simp only [Char.isUpper, decide_eq_true_eq] at hupper
  exact h (Nat.lt_of_le_of_lt hupper.2 (by decide))

/-- A settled character is no ASCII capital. -/
theorem IsSettled.toLower_eq {c : Char} (h : IsSettled c) :
  c.toLower = c
  := by
  by_cases hascii : c.toNat < 0x80
  · have hlower := h.2
    rw [lowerChar, if_pos hascii] at hlower
    exact (List.cons.inj hlower).1
  · exact toLower_eq_of_not_ascii hascii

/-- If lower-casing the ASCII letters of a text leaves settled characters only, it is all that
lower-casing does. -/
theorem lowerFrom_eq_map_toLower {s : List Char} (h : ∀ c ∈ s, IsSettled c.toLower) :
  ∀ before, lowerFrom before s = s.map Char.toLower
  := by
  induction s with
  | nil =>
    intro before
    rfl
  | cons c r ih =>
    intro before
    obtain ⟨hc, hr⟩ := List.forall_mem_cons.mp h
    have hsigma : c ≠ 'Σ' := by
      rintro rfl
      exact hc.1 rfl
    have hlower : lowerChar c = [c.toLower] := by
      by_cases hascii : c.toNat < 0x80
      · rw [lowerChar, if_pos hascii]
      · rw [toLower_eq_of_not_ascii hascii] at hc ⊢
        exact hc.2
    rw [lowerFrom, if_neg hsigma, ih hr, hlower]
    rfl

/-- A text with its ASCII letters in lower case. -/
def lowerAscii (s : String) : String := String.ofList (s.toList.map Char.toLower)

/-- A text differs from a lower-cased one in ASCII letters only if it is the one that it is with its
ASCII letters in lower case. -/
theorem sameLetters_lower_iff (s t : String) :
  sameLetters (lower s) t ↔ lower s = lowerAscii t
  := by
  have hself : (lowerFrom [] s.toList).map Char.toLower = lowerFrom [] s.toList := by
    rw [List.map_congr_left (g := id), List.map_id]
    intro c hc
    exact (isSettled_of_mem_lowerFrom _ _ c hc).toLower_eq
  rw [sameLetters, beq_iff_eq, lower, lowerAscii, String.toList_ofList, hself,
    String.ofList_inj]

/-- If a text with its ASCII letters in lower case is a lower-cased text, it is the text
lower-cased. -/
theorem lower_eq_lowerAscii {s t : String} (h : lower s = lowerAscii t) :
  lower t = lowerAscii t
  := by
  have hlist : lowerFrom [] s.toList = t.toList.map Char.toLower := String.ofList_inj.mp h
  rw [lower, lowerFrom_eq_map_toLower]
  · rfl
  · intro c hc
    apply isSettled_of_mem_lowerFrom s.toList []
    rw [hlist]
    exact List.mem_map_of_mem hc

end CommandTimelines.Text
