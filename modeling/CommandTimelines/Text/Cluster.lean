import CommandTimelines.Text.ClusterTable

/-!
# Clusters

A cluster is what a reader takes for one character. `clusters` cuts a text into them, by the
rules of the Unicode standard for extended grapheme clusters: whether a character joins the
cluster before it depends on its own part, on the part of the character before it, and on a
little that is remembered of those before that one. Main statement: nothing is lost by cutting.

`takeBack?` applies the backspaces in a text, each of which takes back the cluster before it.
-/

namespace CommandTimelines.Text

/-- The part that a character plays in a cluster. -/
def ClusterClass.ofChar (c : Char) : ClusterClass :=
  let n := c.toNat
  if 0xAC00 ≤ n && n ≤ 0xD7A3 then
    if (n - 0xAC00) % 28 = 0 then .openSyllable else .closedSyllable
  else match clusterRanges.dropWhile fun r => r.2.1 < n with
    | [] => .plain
    | (first, _, part) :: _ => if first ≤ n then part else .plain

/-- How far consonants and linkers before a character go towards joining a further consonant. -/
inductive Conjunct where
  | none
  | consonant
  | linked
deriving DecidableEq, Repr

/-- What a text ends in, as far as the characters after it are concerned. -/
structure ClusterEnd where
  /-- The part of the last character. -/
  last : ClusterClass
  /-- Whether it ends in a pictograph, what extends that, and at most one joiner. -/
  afterPictograph : Bool
  conjunct : Conjunct
  /-- Whether it ends in an odd number of halves of flags. -/
  isHalved : Bool
deriving DecidableEq, Repr

namespace ClusterEnd

/-- The end of a text that nothing joins. -/
def start : ClusterEnd := ⟨.control, false, .none, false⟩

/-- Whether a character joins the cluster that a text ends in. -/
def joins (e : ClusterEnd) (next : ClusterClass) : Bool :=
  match e.last, next with
  | .carriageReturn, .lineFeed => true
  | .control, _ | .carriageReturn, _ | .lineFeed, _ => false
  | _, .control | _, .carriageReturn | _, .lineFeed => false
  | .initial, .initial | .initial, .medial => true
  | .initial, .openSyllable | .initial, .closedSyllable => true
  | .openSyllable, .medial | .openSyllable, .final => true
  | .medial, .medial | .medial, .final => true
  | .closedSyllable, .final | .final, .final => true
  | _, .extending | _, .linker | _, .nonJoiner | _, .joiner | _, .spacing => true
  | .leading, _ => true
  | _, .consonant => e.conjunct == .linked
  | .joiner, .pictograph => e.afterPictograph
  | .regional, .regional => e.isHalved
  | _, _ => false

/-- Whether a text with one more character ends in a pictograph, what extends that, and at most
one joiner. -/
def pictographAfter (e : ClusterEnd) : ClusterClass → Bool
  | .pictograph => true
  | .extending | .linker | .nonJoiner | .joiner => e.afterPictograph && e.last != .joiner
  | _ => false

/-- How far consonants and linkers go in a text with one more character. -/
def conjunctAfter (e : ClusterEnd) : ClusterClass → Conjunct
  | .consonant => .consonant
  | .linker => if e.conjunct = .none then .none else .linked
  | .extending | .joiner => e.conjunct
  | _ => .none

/-- What a text with one more character ends in. -/
def next (e : ClusterEnd) (c : ClusterClass) : ClusterEnd :=
  { last := c
    afterPictograph := e.pictographAfter c
    conjunct := e.conjunctAfter c
    isHalved := c == .regional && !(e.last == .regional && e.isHalved) }

end ClusterEnd

/-- What follows in the cluster that a text ends in, and the clusters after it. -/
def clustersAfter (e : ClusterEnd) : List Char → List (List Char)
  | [] => [[]]
  | c :: r =>
    let part := ClusterClass.ofChar c
    match clustersAfter (e.next part) r with
    | [] => [[c]]
    | p :: ps => if e.joins part then (c :: p) :: ps else [] :: (c :: p) :: ps

/-- The clusters of a text. -/
def clusters (s : List Char) : List (List Char) := (clustersAfter .start s).drop 1

/-! ### Backspaces -/

/-- How many bytes a backspace takes back of a cluster: as many as the cluster has, except that
only the rest modulo 256 counts. -/
def bytesBack (cluster : List Char) : Nat :=
  cluster.foldr (fun c n => c.utf8Size + n) 0 % 256

/-- A text without some bytes, both with the last character first; none if a character would be
cut. -/
def dropBytes? : Nat → List Char → Option (List Char)
  | 0, s => some s
  | _ + 1, [] => none
  | n + 1, c :: r => if c.utf8Size ≤ n + 1 then dropBytes? (n + 1 - c.utf8Size) r else none

/-- A text that is being typed. -/
structure Typing where
  /-- What is left of it, the last character first. -/
  text : List Char
  /-- How many bytes each further backspace takes back. -/
  sizes : List Nat

/-- The text after one more cluster; none if a backspace would cut a character. -/
def Typing.next? (t : Typing) (cluster : List Char) : Option Typing :=
  if cluster = ['\x08'] then
    match t.sizes with
    | [] => some t
    | n :: rest => (dropBytes? n t.text).map fun text => ⟨text, rest⟩
  else some ⟨cluster.reverse ++ t.text, bytesBack cluster :: t.sizes⟩

/-- A text after its backspaces; none if one of them would cut a character. -/
def takeBack? (s : List Char) : Option (List Char) :=
  ((clusters s).foldlM Typing.next? ⟨[], []⟩).map (·.text.reverse)

/-! ### Laws -/

theorem clustersAfter_ne_nil (e : ClusterEnd) (s : List Char) :
  clustersAfter e s ≠ []
  := by
  cases s with
  | nil => simp [clustersAfter]
  | cons c r =>
    simp only [clustersAfter]
    split
    · simp
    · split <;> simp

theorem flatten_clustersAfter (e : ClusterEnd) (s : List Char) :
  (clustersAfter e s).flatten = s
  := by
  induction s generalizing e with
  | nil => rfl
  | cons c r ih =>
    simp only [clustersAfter]
    split
    next h =>
      exact absurd h (clustersAfter_ne_nil _ r)
    next p ps h =>
      have rest : p ++ ps.flatten = r := by
        rw [← List.flatten_cons, ← h]
        exact ih _
      split <;> simp [rest]

/-- Cutting into clusters loses nothing. -/
theorem flatten_clusters (s : List Char) :
  (clusters s).flatten = s
  := by
  cases s with
  | nil => rfl
  | cons c r =>
    have whole := flatten_clustersAfter .start (c :: r)
    have alone : ClusterEnd.start.joins (ClusterClass.ofChar c) = false := by
      simp [ClusterEnd.joins, ClusterEnd.start]
    simp only [clustersAfter, alone] at whole
    simp only [clusters, clustersAfter, alone]
    split at whole
    next h =>
      exact absurd h (clustersAfter_ne_nil _ r)
    next p ps h =>
      simp_all

end CommandTimelines.Text
