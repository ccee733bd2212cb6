import CommandTimelines.Host.Command
import Mathlib.Data.Set.Card

/-!
# Handlers that await responses

Handlers are registered and taken by anyone and in any order. What has been done is a list of
`Dealing`s, and `Deals` says to which handlers these lead. It need not be run to be known what they
lead to: under each key awaits the handler that was registered last, unless one has been taken
since (`Stands`), and nothing else (`Recounts`). So a handler is taken where it stands and nowhere
else, and once at most (`Stands.not_again`, `Deals.subperm`).

Keys are compared in lower case, by whoever deals with them.
-/

namespace CommandTimelines.Host

open Text

/-! ### The table -/

namespace Awaiting

variable {table rest : List Awaiting} {key : String} {a : Awaiting}

theorem answersTo_iff (a : Awaiting) (key : String) :
  a.answersTo key ↔ lower a.key = lower key
  := beq_iff_eq

/-- No two handlers await responses under one key. -/
def Distinct (table : List Awaiting) : Prop := (table.map (lower ·.key)).Nodup

namespace Distinct

theorem nil :
  Distinct []
  := List.nodup_nil

theorem filter (h : Distinct table) (p : Awaiting → Bool) :
  Distinct (table.filter p)
  := h.sublist (List.filter_sublist.map _)

theorem register (h : Distinct table) (a : Awaiting) :
  Distinct (Awaiting.register table a)
  := by
  rw [Distinct, Awaiting.register, List.map_append, List.map_singleton, List.nodup_append]
  refine ⟨h.filter _, List.nodup_singleton _, ?_⟩
  intro k hk l hl hkl
  obtain ⟨b, hb, hkey⟩ := List.mem_map.mp hk
  rw [hkl, List.mem_singleton.mp hl] at hkey
  have hother := (List.mem_filter.mp hb).2
  rw [Bool.not_eq_true', ← Bool.not_eq_true, answersTo_iff] at hother
  exact hother hkey

theorem eq_of_key (h : Distinct table) {b : Awaiting} (ha : a ∈ table) (hb : b ∈ table)
    (hkey : lower a.key = lower b.key) :
  a = b
  := List.inj_on_of_nodup_map h ha hb hkey

end Distinct

theorem mem_register {new : Awaiting} :
  a ∈ Awaiting.register table new ↔ (a ∈ table ∧ lower a.key ≠ lower new.key) ∨ a = new
  := by
  simp [Awaiting.register, answersTo]

theorem take_eq_none_iff :
  Awaiting.take table key = none ↔ ∀ a ∈ table, lower a.key ≠ lower key
  := by
  simp [Awaiting.take, answersTo]

/-- The handler that is taken awaits a response under the key, and the others await responses under
other keys. -/
theorem of_take (h : Awaiting.take table key = some (a, rest)) :
  a ∈ table ∧ lower a.key = lower key ∧ rest = table.filter fun b => !b.answersTo key
  := by
  obtain ⟨b, hfind, heq⟩ := Option.map_eq_some_iff.mp h
  obtain ⟨rfl, rfl⟩ := Prod.mk.inj heq
  have hanswers := List.find?_some hfind
  exact ⟨List.mem_of_find?_eq_some hfind, (answersTo_iff b key).mp hanswers, rfl⟩

end Awaiting

/-! ### Dealings -/

/-- Something that is done to the handlers that await responses. -/
inductive Dealing where
  /-- A handler is registered. -/
  | register (a : Awaiting)
  /-- The handler that awaits a key is taken, if there is one. -/
  | take (key : String) (taken : Option Awaiting)
deriving DecidableEq, Repr

namespace Dealing

/-- The key that is dealt with, in lower case. -/
def key : Dealing → String
  | .register a => lower a.key
  | .take key _ => lower key

/-- The handler that is registered. -/
def registered? : Dealing → Option Awaiting
  | .register a => some a
  | .take _ _ => none

/-- The handler that is taken. -/
def taken? : Dealing → Option Awaiting
  | .register _ => none
  | .take _ taken => taken

end Dealing

/-- `Deals table history table'`: what is done one after the other leads from one table of handlers
to the other. -/
inductive Deals (table : List Awaiting) : List Dealing → List Awaiting → Prop
  | nil : Deals table [] table
  | register {history : List Dealing} {table' : List Awaiting} (h : Deals table history table')
      (a : Awaiting) :
      Deals table (history ++ [.register a]) (Awaiting.register table' a)
  | take {history : List Dealing} {table' rest : List Awaiting} (h : Deals table history table')
      {key : String} {a : Awaiting} (htake : Awaiting.take table' key = some (a, rest)) :
      Deals table (history ++ [.take key (some a)]) rest
  | miss {history : List Dealing} {table' : List Awaiting} (h : Deals table history table')
      {key : String} (htake : Awaiting.take table' key = none) :
      Deals table (history ++ [.take key none]) table'

theorem Deals.trans {table table' table'' : List Awaiting} {history later : List Dealing}
    (h : Deals table history table') (hlater : Deals table' later table'') :
  Deals table (history ++ later) table''
  := by
  induction hlater with
  | nil => rwa [List.append_nil]
  | register _ a ih =>
    rw [← List.append_assoc]
    exact ih.register a
  | take _ htake ih =>
    rw [← List.append_assoc]
    exact ih.take htake
  | miss _ htake ih =>
    rw [← List.append_assoc]
    exact ih.miss htake

/-- The handlers that something leaves. -/
def Dealing.leaves (table : List Awaiting) : Dealing → List Awaiting
  | .register a => Awaiting.register table a
  | .take key _ => table.filter fun a => !a.answersTo key

theorem Deals.eq_foldl {table table' : List Awaiting} {history : List Dealing}
    (h : Deals table history table') :
  table' = history.foldl Dealing.leaves table
  := by
  induction h with
  | nil => rfl
  | register _ a ih => rw [List.foldl_concat, ← ih, Dealing.leaves]
  | take _ htake ih => rw [List.foldl_concat, ← ih, Dealing.leaves, (Awaiting.of_take htake).2.2]
  | miss _ htake ih =>
    rw [List.foldl_concat, ← ih, Dealing.leaves, List.filter_eq_self.mpr]
    simpa [Awaiting.answersTo] using Awaiting.take_eq_none_iff.mp htake

/-! ### What stands -/

/-- `Stands history k n a`: the handler `a` was registered under `k`, a key in lower case, by the
dealing at position `n`, and none of the later ones is about this key. -/
structure Stands (history : List Dealing) (k : String) (n : Nat) (a : Awaiting) : Prop where
  registered : history[n]? = some (.register a)
  key : lower a.key = k
  last : ∀ i d, n < i → history[i]? = some d → d.key ≠ k

namespace Stands

variable {history : List Dealing} {k : String} {n m : Nat} {a b : Awaiting}

theorem lt_length (h : Stands history k n a) :
  n < history.length
  := (List.getElem?_eq_some_iff.mp h.registered).1

/-- What stands after one more dealing: what was registered just now, or what stood before under
another key. -/
theorem concat_iff (d : Dealing) :
  Stands (history ++ [d]) k n a
    ↔ (Stands history k n a ∧ d.key ≠ k)
      ∨ (n = history.length ∧ d = .register a ∧ lower a.key = k)
  := by
  constructor
  · intro h
    have hn : n ≤ history.length := by
      have hlength := h.lt_length
      rw [List.length_append, List.length_singleton] at hlength
      omega
    obtain hlt | rfl := Nat.lt_or_eq_of_le hn
    · left
      refine ⟨⟨?_, h.key, ?_⟩, h.last history.length d hlt List.getElem?_concat_length⟩
      · rw [← h.registered, List.getElem?_append_left hlt]
      · intro i e hi he
        have hlength := (List.getElem?_eq_some_iff.mp he).1
        apply h.last i e hi
        rw [List.getElem?_append_left hlength, he]
    · right
      have hlast := h.registered
      rw [List.getElem?_concat_length] at hlast
      exact ⟨rfl, Option.some.inj hlast, h.key⟩
  · rintro (⟨h, hd⟩ | ⟨rfl, rfl, hkey⟩)
    · refine ⟨?_, h.key, ?_⟩
      · rw [List.getElem?_append_left h.lt_length, h.registered]
      · intro i e hi he
        obtain hlt | rfl | hgt := Nat.lt_trichotomy i history.length
        · rw [List.getElem?_append_left hlt] at he
          exact h.last i e hi he
        · rw [List.getElem?_concat_length] at he
          exact Option.some.inj he ▸ hd
        · rw [List.getElem?_eq_none (by simp; omega)] at he
          cases he
    · refine ⟨List.getElem?_concat_length, hkey, ?_⟩
      intro i e hi he
      rw [List.getElem?_eq_none (by simp; omega)] at he
      cases he

theorem exists_concat_iff (d : Dealing) :
  (∃ n, Stands (history ++ [d]) k n a)
    ↔ ((∃ n, Stands history k n a) ∧ d.key ≠ k) ∨ (d = .register a ∧ lower a.key = k)
  := by
  simp only [concat_iff, exists_or, exists_and_right, exists_eq, true_and]

theorem not_nil :
  ¬ Stands [] k n a
  := fun h => absurd h.lt_length (Nat.not_lt_zero n)

/-- What is taken where it stands does not stand any more, wherever it is asked for. -/
theorem not_again {key : String} {taken : Option Awaiting}
    (h : Stands (history.take m) (lower key) n a) (htake : history[m]? = some (.take key taken))
    {m' : Nat} (hm : m < m') :
  ¬ Stands (history.take m') k n b
  := by
  intro h'
  have hn : n < m := by
    have hlength := h.lt_length
    rw [List.length_take] at hlength
    omega
  have hregister := h.registered
  have hregister' := h'.registered
  rw [List.getElem?_take_of_lt hn] at hregister
  rw [List.getElem?_take_of_lt (by omega), hregister] at hregister'
  obtain rfl := Dealing.register.inj (Option.some.inj hregister')
  have hkey : lower key = k := h.key.symm.trans h'.key
  apply h'.last m (.take key taken) hn _ hkey
  rw [List.getElem?_take_of_lt hm, htake]

end Stands

/-! ### What a history comes to -/

/-- `Recounts history table`: the table holds what stands after a history, and each handler that was
taken was taken where it stood. -/
structure Recounts (history : List Dealing) (table : List Awaiting) : Prop where
  distinct : Awaiting.Distinct table
  mem_iff (a : Awaiting) (k : String) :
    a ∈ table ∧ lower a.key = k ↔ ∃ n, Stands history k n a
  taken {m : Nat} {key : String} {taken : Option Awaiting}
    (h : history[m]? = some (.take key taken)) (a : Awaiting) :
    taken = some a ↔ ∃ n, Stands (history.take m) (lower key) n a

namespace Recounts

variable {history : List Dealing} {table : List Awaiting}

theorem nil :
  Recounts [] []
  where
  distinct := .nil
  mem_iff a k := by
    constructor
    · rintro ⟨ha, -⟩
      cases ha
    · rintro ⟨n, h⟩
      exact absurd h Stands.not_nil
  taken h := by cases h

/-- What was taken before stays so, whatever is done now. -/
theorem taken_concat (h : Recounts history table) {d : Dealing}
    (hlast : ∀ key taken, d = .take key taken → ∀ a, taken = some a
      ↔ ∃ n, Stands history (lower key) n a)
    {m : Nat} {key : String} {taken : Option Awaiting}
    (hm : (history ++ [d])[m]? = some (.take key taken)) (a : Awaiting) :
  taken = some a ↔ ∃ n, Stands ((history ++ [d]).take m) (lower key) n a
  := by
  obtain hlt | rfl | hgt := Nat.lt_trichotomy m history.length
  · rw [List.getElem?_append_left hlt] at hm
    rw [List.take_append_of_le_length hlt.le]
    exact h.taken hm a
  · rw [List.getElem?_concat_length] at hm
    rw [List.take_left]
    exact hlast key taken (Option.some.inj hm) a
  · rw [List.getElem?_eq_none (by simp; omega)] at hm
    cases hm

theorem register (h : Recounts history table) (new : Awaiting) :
  Recounts (history ++ [.register new]) (Awaiting.register table new)
  where
  distinct := h.distinct.register new
  mem_iff a k := by
    rw [Stands.exists_concat_iff, ← h.mem_iff, Awaiting.mem_register, Dealing.register.injEq]
    constructor
    · rintro ⟨⟨ha, hne⟩ | rfl, rfl⟩
      · exact .inl ⟨⟨ha, rfl⟩, hne.symm⟩
      · exact .inr ⟨rfl, rfl⟩
    · rintro (⟨⟨ha, rfl⟩, hne⟩ | ⟨rfl, rfl⟩)
      · exact ⟨.inl ⟨ha, hne.symm⟩, rfl⟩
      · exact ⟨.inr rfl, rfl⟩
  taken := h.taken_concat (by rintro _ _ ⟨⟩)

/-- A handler is taken where it stands. -/
theorem take_iff (h : Recounts history table) (key : String) (a : Awaiting) :
  (Awaiting.take table key).map (·.1) = some a ↔ ∃ n, Stands history (lower key) n a
  := by
  rw [← h.mem_iff]
  cases htake : Awaiting.take table key with
  | none =>
    have hnone := Awaiting.take_eq_none_iff.mp htake
    simp only [Option.map_none, reduceCtorEq, false_iff, not_and]
    exact hnone a
  | some taken =>
    obtain ⟨b, rest⟩ := taken
    obtain ⟨hb, hkey, -⟩ := Awaiting.of_take htake
    rw [Option.map_some, Option.some.injEq]
    constructor
    · rintro rfl
      exact ⟨hb, hkey⟩
    · rintro ⟨ha, hkey'⟩
      exact h.distinct.eq_of_key hb ha (hkey.trans hkey'.symm)

theorem take (h : Recounts history table) {key : String} {taken : Awaiting}
    {rest : List Awaiting} (htake : Awaiting.take table key = some (taken, rest)) :
  Recounts (history ++ [.take key (some taken)]) rest
  := by
  have htaken := h.take_iff key
  rw [htake, Option.map_some] at htaken
  obtain ⟨-, -, rfl⟩ := Awaiting.of_take htake
  refine ⟨h.distinct.filter _, ?_, h.taken_concat ?_⟩
  · intro a k
    rw [Stands.exists_concat_iff, ← h.mem_iff, List.mem_filter, Awaiting.answersTo,
      Bool.not_eq_true', beq_eq_false_iff_ne]
    constructor
    · rintro ⟨⟨ha, hne⟩, rfl⟩
      exact .inl ⟨⟨ha, rfl⟩, hne.symm⟩
    · rintro (⟨⟨ha, rfl⟩, hne⟩ | ⟨⟨⟩, -⟩)
      exact ⟨⟨ha, hne.symm⟩, rfl⟩
  · rintro _ _ ⟨⟩
    exact htaken

theorem miss (h : Recounts history table) {key : String}
    (htake : Awaiting.take table key = none) :
  Recounts (history ++ [.take key none]) table
  := by
  have htaken := h.take_iff key
  rw [htake, Option.map_none] at htaken
  have hnone := Awaiting.take_eq_none_iff.mp htake
  refine ⟨h.distinct, ?_, h.taken_concat ?_⟩
  · intro a k
    rw [Stands.exists_concat_iff, ← h.mem_iff]
    constructor
    · rintro ⟨ha, rfl⟩
      exact .inl ⟨⟨ha, rfl⟩, (hnone a ha).symm⟩
    · rintro (⟨ha, -⟩ | ⟨⟨⟩, -⟩)
      exact ha
  · rintro _ _ ⟨⟩
    exact htaken

/-- As many handlers await responses as there are keys under which one stands. -/
theorem ncard_keys (h : Recounts history table) :
  {k | ∃ n a, Stands history k n a}.ncard = table.length
  := by
  have hkeys : {k | ∃ n a, Stands history k n a} = ((table.map (lower ·.key)).toFinset : Set String)
      := by
    ext k
    simp only [Set.mem_ofPred_eq, List.coe_toFinset, List.mem_map, exists_comm (α := Nat),
      ← h.mem_iff]
  rw [hkeys, Set.ncard_coe_finset, List.toFinset_card_of_nodup h.distinct, List.length_map]

theorem any_answersTo (h : Recounts history table) (key : String) :
  table.any (·.answersTo key) ↔ ∃ n a, Stands history (lower key) n a
  := by
  simp only [List.any_eq_true, Awaiting.answersTo_iff, exists_comm (α := Nat), ← h.mem_iff]

end Recounts

namespace Deals

variable {history : List Dealing} {table : List Awaiting}

/-- Whatever is done, and in whatever order, it comes to what the history recounts. -/
theorem recounts (h : Deals [] history table) :
  Recounts history table
  := by
  induction h with
  | nil => exact .nil
  | register _ a ih => exact ih.register a
  | take _ htake ih => exact ih.take htake
  | miss _ htake ih => exact ih.miss htake

/-- Of the handlers that were registered, some have been taken and others are awaiting responses,
and none is counted twice. -/
theorem subperm (h : Deals [] history table) :
  (history.filterMap Dealing.taken? ++ table).Subperm (history.filterMap Dealing.registered?)
  := by
  induction h with
  | nil => exact List.Subperm.refl []
  | @register history table _ new ih =>
    simp only [List.filterMap_append, Awaiting.register]
    have hfewer : (table.filter fun a => !a.answersTo new.key).Subperm table :=
      List.filter_sublist.subperm
    rw [← List.append_assoc]
    simp only [List.filterMap_cons, Dealing.taken?, Dealing.registered?, List.filterMap_nil,
      List.append_nil]
    exact (((List.subperm_append_left _).mpr hfewer).trans ih).append (.refl _)
  | @take history table rest _ key a htake ih =>
    obtain ⟨ha, hkey, rfl⟩ := Awaiting.of_take htake
    simp only [List.filterMap_append, List.filterMap_cons, Dealing.taken?, Dealing.registered?,
      List.filterMap_nil, List.append_nil, List.append_assoc]
    -- The handler that is taken is one that awaits the key, and the others stay.
    have hanswers : a ∈ table.filter (·.answersTo key) :=
      List.mem_filter.mpr ⟨ha, (Awaiting.answersTo_iff a key).mpr hkey⟩
    have hparts : ([a] ++ table.filter fun b => !b.answersTo key).Subperm table :=
      ((List.singleton_sublist.mpr hanswers).subperm.append (.refl _)).trans
        (List.filter_append_perm (·.answersTo key) table).subperm
    exact ((List.subperm_append_left _).mpr hparts).trans ih
  | miss _ htake ih =>
    simp only [List.filterMap_append, List.filterMap_cons, Dealing.taken?, Dealing.registered?,
      List.filterMap_nil, List.append_nil]
    exact ih

end Deals

end CommandTimelines.Host
