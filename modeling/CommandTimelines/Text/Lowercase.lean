import CommandTimelines.Text.CaseTable

/-!
# Lower-casing

`lower` maps a text to lower case by the full Unicode rules: each character by itself,
except that U+0130 becomes two characters and that a capital sigma becomes a final sigma
where it ends a word. `sameLetters` compares two texts up to the case of their ASCII
letters only.
-/

namespace CommandTimelines.Text

/-- Whether a character is cased. -/
def isCased (c : Char) : Bool := CodeRange.cover casedRanges c

/-- Whether a character is passed over when the letter next to a position is looked for. -/
def isCaseIgnorable (c : Char) : Bool := CodeRange.cover caseIgnorableRanges c

/-- Whether a code point belongs to a run. -/
def CaseRun.covers (r : CaseRun) (n : Nat) : Bool :=
  r.first ≤ n && n ≤ r.last && (n - r.first) % r.stride == 0

/-- The lower case of a character taken by itself. -/
def lowerChar (c : Char) : List Char :=
  if c.toNat < 0x80 then [c.toLower]
  else if c.toNat = 0x130 then ['i', '\u0307']
  else match lowerRuns.find? (·.covers c.toNat) with
    | some r => [Char.ofNat (c.toNat + r.shift).toNat]
    | none => [c]

/-- Whether a text, read from its start, meets a cased letter before anything that is not
to be ignored. -/
def meetsCased (s : List Char) : Bool :=
  match s.dropWhile isCaseIgnorable with
  | c :: _ => isCased c
  | [] => false

/-- The lower case of a text that follows `before`, a text given from its end. A capital
sigma is final when a cased letter comes before it and none comes after it. -/
def lowerFrom (before : List Char) : List Char → List Char
  | [] => []
  | c :: r =>
    if c = 'Σ' then
      (if meetsCased before && !meetsCased r then 'ς' else 'σ') :: lowerFrom (c :: before) r
    else lowerChar c ++ lowerFrom (c :: before) r

/-- The lower case of a text. -/
def lower (s : String) : String := String.ofList (lowerFrom [] s.toList)

/-- Whether two texts differ at most in the case of ASCII letters. -/
def sameLetters (s t : String) : Bool :=
  s.toList.map Char.toLower == t.toList.map Char.toLower

@[simp]
theorem sameLetters_refl (s : String) :
  sameLetters s s = true
  := by
  simp [sameLetters]

end CommandTimelines.Text
