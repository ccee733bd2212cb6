import CommandTimelines.Text.Pieces
import Mathlib.Data.List.Basic

/-!
# Sorting

`sortBy` puts a list in order (`pairwise_sortBy`), and the order of `sort`, which compares code
points, is the order of the UTF-8 bytes (`bytes_lt_bytes`): where two texts begin to differ,
the encoding of the greater character has the greater byte where the encodings begin to differ.
-/

namespace CommandTimelines.Text

/-! ### Insertion -/

/-- Inserting adds one element. -/
theorem mem_insert {α : Type} (le : α → α → Bool) (x z : α) (ys : List α) :
  z ∈ sortBy.insert le x ys ↔ z = x ∨ z ∈ ys
  := by
  induction ys with
  | nil => simp [sortBy.insert]
  | cons y ys ih =>
    rw [sortBy.insert]
    split
    · simp
    · rw [List.mem_cons, ih, List.mem_cons, or_left_comm]

/-- A list sorted by insertion is in order. -/
theorem pairwise_sortBy {α : Type} (le : α → α → Bool)
    (htrans : ∀ x y z, le x y → le y z → le x z) (htotal : ∀ x y, le x y ∨ le y x)
    (xs : List α) :
  (sortBy le xs).Pairwise (le · ·)
  := by
  have inserted : ∀ (x : α) (ys : List α), ys.Pairwise (le · ·) →
      (sortBy.insert le x ys).Pairwise (le · ·) := by
    intro x ys hys
    induction ys with
    | nil => apply List.pairwise_singleton
    | cons y ys ih =>
      obtain ⟨hy, hys'⟩ := List.pairwise_cons.mp hys
      rw [sortBy.insert]
      split
      · rename_i hxy
        rw [List.pairwise_cons]
        refine ⟨?_, hys⟩
        intro z hz
        rcases List.mem_cons.mp hz with rfl | hz
        · apply hxy
        · apply htrans x y z hxy (hy z hz)
      · rename_i hxy
        rw [List.pairwise_cons]
        refine ⟨?_, ih hys'⟩
        intro z hz
        rcases (mem_insert le x z ys).mp hz with rfl | hz
        · apply (htotal z y).resolve_left hxy
        · apply hy z hz
  induction xs with
  | nil => apply List.Pairwise.nil
  | cons x xs ih => apply inserted x _ ih

/-- A function that keeps the order of the elements of a list keeps their order when the list is
sorted. -/
theorem sortBy_map_of_mem {α β : Type} {le : α → α → Bool} {le' : β → β → Bool} {f : α → β}
    {xs : List α} (hf : ∀ x ∈ xs, ∀ y ∈ xs, le' (f x) (f y) = le x y) :
  sortBy le' (xs.map f) = (sortBy le xs).map f
  := by
  have inserted : ∀ (x : α) (ys : List α), (∀ y ∈ ys, le' (f x) (f y) = le x y) →
      sortBy.insert le' (f x) (ys.map f) = (sortBy.insert le x ys).map f := by
    intro x ys hys
    induction ys with
    | nil => rfl
    | cons y ys ih =>
      obtain ⟨hy, hys⟩ := List.forall_mem_cons.mp hys
      rw [List.map_cons, sortBy.insert, sortBy.insert, hy]
      split
      · rfl
      · rw [ih hys, List.map_cons]
  induction xs with
  | nil => rfl
  | cons x xs ih =>
    have hrest := ih fun y hy z hz =>
      hf y (List.mem_cons_of_mem x hy) z (List.mem_cons_of_mem x hz)
    rw [List.map_cons, sortBy, sortBy, hrest]
    apply inserted
    intro y hy
    apply hf x List.mem_cons_self y
    exact List.mem_cons_of_mem x ((sortBy_perm le xs).mem_iff.mp hy)

/-- A function that keeps the order of any two elements keeps the order of a list. -/
theorem sortBy_map {α β : Type} {le : α → α → Bool} {le' : β → β → Bool} {f : α → β}
    (hf : ∀ x y, le' (f x) (f y) = le x y) (xs : List α) :
  sortBy le' (xs.map f) = (sortBy le xs).map f
  := sortBy_map_of_mem fun x _ y _ => hf x y

/-! ### The order of bytes -/

/-- The UTF-8 bytes of a text. -/
def bytes (s : String) : List UInt8 := s.toByteArray.data.toList

theorem bytes_eq (s : String) :
  bytes s = s.toList.flatMap String.utf8EncodeChar
  := by
  rw [bytes, ← String.utf8Encode_toList, List.utf8Encode]
  simp

/-- The bytes of characters compare as the characters, whatever follows them. -/
theorem utf8EncodeChar_lt {c d : Char} (h : c < d) (u v : List UInt8) :
  String.utf8EncodeChar c ++ u < String.utf8EncodeChar d ++ v
  := by
  have hval : c.val.toNat < d.val.toNat := h
  have hlast : d.val.toNat < 1114112 := by
    rcases d.valid with hlow | ⟨-, hhigh⟩
    · apply Nat.lt_trans hlow (by decide)
    · apply hhigh
  unfold String.utf8EncodeChar
  generalize c.val.toNat = m at hval
  generalize d.val.toNat = n at hval hlast
  -- Numbers compare as their digits to the base 64.
  have hhigh : m / 262144 < n / 262144 ∨ m / 262144 = n / 262144 ∧
      (m / 4096 % 64 < n / 4096 % 64 ∨ m / 4096 = n / 4096) := by
    omega
  have hlow : m / 4096 < n / 4096 ∨ m / 4096 = n / 4096 ∧
      (m / 64 % 64 < n / 64 % 64 ∨ m / 64 = n / 64 ∧ m % 64 < n % 64) := by
    omega
  have hmod : ∀ k, (k % 64 + 128) % 256 = k % 64 + 128 := by
    omega
  have htop : ∀ k < 1114112, (k / 262144 % 8 + 240) % 256 = k / 262144 + 240 := by
    omega
  have hm := htop m (Nat.lt_trans hval hlast)
  have hn := htop n hlast
  -- What follows does not matter, as the bytes differ before.
  by_cases huv : u < v <;>
  · simp only
    split_ifs <;>
    · simp only [List.cons_append, List.nil_append, List.cons_lt_cons_iff, huv,
        UInt8.lt_iff_toNat_lt, ← UInt8.toNat_inj, UInt8.toNat_ofNat', Nat.reducePow, hmod, hm,
        hn, and_true, and_false]
      omega

theorem flatMap_utf8EncodeChar_lt {s t : List Char} (h : s < t) :
  s.flatMap String.utf8EncodeChar < t.flatMap String.utf8EncodeChar
  := by
  induction h with
  | @nil c t =>
    obtain ⟨b, r, hb⟩ := List.exists_cons_of_ne_nil (String.utf8EncodeChar_ne_nil (c := c))
    rw [List.flatMap_cons, hb]
    apply List.nil_lt_cons
  | @cons c s t _ ih =>
    rw [List.flatMap_cons, List.flatMap_cons]
    apply List.append_left_lt ih
  | @rel c s d t hcd =>
    rw [List.flatMap_cons, List.flatMap_cons]
    apply utf8EncodeChar_lt hcd

/-- The order of texts is that of their bytes. -/
theorem bytes_lt_bytes {s t : String} (h : s < t) :
  bytes s < bytes t
  := by
  rw [bytes_eq, bytes_eq]
  apply flatMap_utf8EncodeChar_lt h

/-- Texts that are all different are put in the order of their bytes. -/
theorem pairwise_bytes_sort {texts : List String} (h : texts.Nodup) :
  (sort texts).Pairwise (bytes · < bytes ·)
  := by
  have hle : (sort texts).Pairwise (· ≤ ·) := by
    have hsorted := pairwise_sortBy (fun s t : String => decide (s ≤ t))
      (by simpa using fun x y z => String.le_trans) (by simpa using String.le_total) texts
    apply hsorted.imp
    intro s t hst
    apply of_decide_eq_true hst
  have hne : (sort texts).Pairwise (· ≠ ·) := (sortBy_perm _ texts).nodup_iff.mpr h
  apply (hle.and hne).imp
  intro s t hst
  apply bytes_lt_bytes
  apply Std.lt_of_le_of_ne hst.1 hst.2

end CommandTimelines.Text
