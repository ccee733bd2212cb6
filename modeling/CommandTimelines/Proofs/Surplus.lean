import CommandTimelines.Proofs.Arguments
import CommandTimelines.Proofs.Layout

/-!
# Arguments to spare

Arguments that are given after the ones that a script uses change nothing: what was compiled is
compiled to the same, and what could not be compiled fails with the same error, unless it was
short of arguments (`Scope.compile_append_params`).

Each stage of compiling is followed with two lists of arguments, the longer of which begins with
the shorter. `Endures` says how their results are related, and that relation passes from a
placeholder (`argument_endures`) to a line, from one line to the next ones, and through the count
of the header. One stage asks whether there are arguments at all: where there are none, lines are
left as they are (`Scope.fill`), so that the first argument may change everything.
-/

namespace CommandTimelines

/-- Whether an argument was missing where a placeholder refers to it. -/
def Script.BindFault.IsShortage : Script.BindFault → Prop
  | .outOfRange _ _ => True
  | .malformed _ => False

/-- Whether arguments were missing. -/
def TimelineError.IsShortage : TimelineError → Prop
  | .missingParameters _ => True
  | .unbound _ cause => cause.IsShortage
  | _ => False

theorem TimelineError.isShortage_iff (error : TimelineError) :
  error.IsShortage ↔ (∃ names, error = .missingParameters names)
    ∨ ∃ line index available, error = .unbound line (.outOfRange index available)
  := by
  constructor
  · intro h
    cases error with
    | missingParameters names => exact .inl ⟨names, rfl⟩
    | unbound line cause =>
      cases cause with
      | outOfRange index available => exact .inr ⟨line, index, available, rfl⟩
      | malformed column => cases h
    | _ => cases h
  · rintro (⟨names, rfl⟩ | ⟨line, index, available, rfl⟩)
    · trivial
    · trivial

namespace Script

open Host Text

/-! ### Results that endure -/

/-- The second result is the first one, unless the first one is an error of a certain kind. -/
def Endures {ε α : Type} (passing : ε → Prop) (x y : Except ε α) : Prop :=
  y = x ∨ ∃ e, x = .error e ∧ passing e

namespace Endures

variable {ε α β : Type} {passing : ε → Prop} {x y : Except ε α}

theorem refl (x : Except ε α) :
  Endures passing x x
  := .inl rfl

/-- What follows endures if what comes first does, and if it does so itself. -/
theorem bind (h : Endures passing x y) {f g : α → Except ε β}
    (hfg : ∀ a, Endures passing (f a) (g a)) :
  Endures passing (x >>= f) (y >>= g)
  := by
  obtain rfl | ⟨e, rfl, he⟩ := h
  · cases y with
    | error e => exact .refl (.error e)
    | ok a => exact hfg a
  · exact .inr ⟨e, rfl, he⟩

theorem mapError (h : Endures passing x y) {ε' : Type} {passing' : ε' → Prop} {f : ε → ε'}
    (hf : ∀ e, passing e → passing' (f e)) :
  Endures passing' (x.mapError f) (y.mapError f)
  := by
  obtain rfl | ⟨e, rfl, he⟩ := h
  · exact .refl _
  · exact .inr ⟨f e, rfl, hf e he⟩

theorem ok {a : α} (h : Endures passing x y) (hx : x = .ok a) :
  y = .ok a
  := by
  obtain rfl | ⟨e, rfl, _⟩ := h
  · exact hx
  · cases hx

theorem error {e : ε} (h : Endures passing x y) (hx : x = .error e) (he : ¬ passing e) :
  y = .error e
  := by
  obtain rfl | ⟨e', rfl, he'⟩ := h
  · exact hx
  · cases hx
    exact absurd he' he

end Endures

/-! ### One line -/

section

variable (p more : List String)

/-- A placeholder keeps its argument, or the fault that it refers to nothing. -/
theorem argument_endures (column : Nat) (digits : List Char) :
  Endures BindFault.IsShortage (argument p column digits) (argument (p ++ more) column digits)
  := by
  rw [argument, argument]
  cases unsignedWord? digits with
  | none => exact .refl _
  | some index =>
    by_cases hindex : index < p.length
    · simp only [List.getElem?_append_left hindex, List.getElem?_eq_getElem hindex]
      exact .refl _
    · simp only [List.getElem?_eq_none (Nat.le_of_not_lt hindex)]
      exact .inr ⟨_, rfl, trivial⟩

theorem bindFrom_endures (text : List Char) :
  ∀ column mode, Endures BindFault.IsShortage (bindFrom p column mode text)
    (bindFrom (p ++ more) column mode text)
  := by
  intro column mode
  fun_induction bindFrom p column mode text with
  | case1 => exact .refl _
  | case2 column r ih =>
    rw [bindFrom]
    exact ih.bind fun _ => .refl _
  | case3 column r ih =>
    rw [bindFrom]
    exact ih.bind fun _ => .refl _
  | case4 column r hdouble hclose ih =>
    rw [bindFrom_single _ column hdouble hclose, if_pos rfl]
    exact ih
  | case5 column r hopen hdouble hne =>
    rw [bindFrom_single _ column hopen hdouble, if_neg hne, if_pos rfl]
    exact .refl _
  | case6 column c r hdouble hclose hopen hne ih =>
    rw [bindFrom_single _ column hdouble hclose, if_neg hopen, if_neg hne]
    exact ih.bind fun _ => .refl _
  | case7 column start digits =>
    rw [bindFrom]
    exact .refl _
  | case8 column start digits r ih =>
    rw [bindFrom, if_pos rfl]
    apply (argument_endures p more start digits).bind
    intro value
    exact ih.bind fun _ => .refl _
  | case9 column start digits c r hne ih =>
    rw [bindFrom, if_neg hne]
    exact ih

end

namespace Scope

variable {R : Type} (scope : Scope R) (more : List String)

/-- A scope with arguments after its own ones. -/
def extend : Scope R := { scope with params := scope.params ++ more }

section

variable (hgiven : scope.params ≠ [])
include hgiven

theorem fill_endures (number : Nat) (text : List Char) :
  Endures TimelineError.IsShortage (scope.fill number text)
    ((scope.extend more).fill number text)
  := by
  have hmore : (scope.extend more).params ≠ [] := List.append_ne_nil_of_left_ne_nil hgiven more
  rw [fill, fill, if_neg hgiven, if_neg hmore]
  apply (bindFrom_endures scope.params more text 1 .outside).mapError
  intro fault hfault
  exact hfault

variable [Resolver R]

/-- Nothing but the filling of a line looks at the arguments. -/
theorem compileText_endures (number : Nat) (text : List Char) :
  Endures TimelineError.IsShortage (scope.compileText number text)
    ((scope.extend more).compileText number text)
  := by
  rw [compileText, compileText]
  apply (scope.fill_endures more hgiven number text).bind
  intro filled
  exact .refl _

theorem compileLine_endures (number : Nat) (line : List Char) :
  Endures TimelineError.IsShortage (scope.compileLine number line)
    ((scope.extend more).compileLine number line)
  := by
  rw [compileLine, compileLine]
  cases Line.read line with
  | comment => exact .refl _
  | text content => exact scope.compileText_endures more hgiven number content

/-! ### One line after the other -/

theorem compileLines_endures (ls : List (List Char)) :
  ∀ number, Endures TimelineError.IsShortage (scope.compileLines number ls)
    ((scope.extend more).compileLines number ls)
  := by
  induction ls with
  | nil =>
    intro number
    exact .refl _
  | cons line ls ih =>
    intro number
    rw [compileLines_cons, compileLines_cons]
    apply (scope.compileLine_endures more hgiven number line).bind
    intro here
    exact (ih (number + 1)).bind fun _ => .refl _

theorem compileScript_endures (ls : List (List Char)) :
  ∀ number, Endures TimelineError.IsShortage (scope.compileScript number ls)
    ((scope.extend more).compileScript number ls)
  := by
  induction ls with
  | nil =>
    intro number
    exact .refl _
  | cons line ls ih =>
    intro number
    have hscript := ih (number + 1)
    have hlater := scope.compileLines_endures more hgiven ls (number + 1)
    have hbody := scope.compileLines_endures more hgiven (line :: ls) number
    rw [compileScript, compileScript]
    cases Line.read line with
    | comment => exact hscript
    | text content =>
      simp only
      split
      · exact hscript
      · split
        · rename_i names hheader
          -- More arguments can meet the count of a header, and never miss one that was met.
          have hlength : scope.params.length ≤ (scope.extend more).params.length := by
            simp [extend]
          by_cases hshort : scope.params.length < names.length
          · rw [if_pos hshort]
            exact .inr ⟨_, rfl, trivial⟩
          · rw [if_neg hshort, if_neg (by omega)]
            exact hlater
        · exact hbody

/-- Arguments to spare are ignored. For every text and every list of arguments that is not empty,
if the text can be compiled, it is compiled to the same queue with more arguments after them; and
if it cannot be compiled, it fails with more arguments as it did, unless arguments were missing:
fewer than the header names, or one that a placeholder refers to. -/
theorem compile_append_params (raw : String) :
  (∀ queue, scope.compile raw = .ok queue →
      { scope with params := scope.params ++ more }.compile raw = .ok queue)
    ∧ ∀ error, scope.compile raw = .error error →
      (∀ names, error ≠ .missingParameters names) →
      (∀ line index available, error ≠ .unbound line (.outOfRange index available)) →
      { scope with params := scope.params ++ more }.compile raw = .error error
  := by
  have hendures := scope.compileScript_endures more hgiven (lines raw.toList) 1
  constructor
  · intro queue hqueue
    exact hendures.ok hqueue
  · intro error herror hmissing hrange
    apply hendures.error herror
    rw [TimelineError.isShortage_iff]
    rintro (⟨names, rfl⟩ | ⟨line, index, available, rfl⟩)
    · exact hmissing names rfl
    · exact hrange line index available rfl

end

/-- A greeting that asks for two names and is given three, and a wait that is none. -/
theorem compile_append_params_greeting :
  let say : Command := { given := ["say"] }
  let scope : Scope :=
    { name := "hello", params := ["Ann", "Bob"], commands := [say], specifiers := {} }
  let longer : Scope := { scope with params := ["Ann", "Bob", "Cid"] }
  let raw := "#req one, two\n/say \x7b0\x7d and \x7b1\x7d"
  let broken := raw ++ "\n#wait \x7b0\x7d\n/say \x7b2\x7d"
  scope.params ≠ []
    ∧ scope.compile raw = .ok [.invoke 2 "say" say "say Ann and Bob" false ["Ann", "and", "Bob"]]
    ∧ longer.compile raw = .ok [.invoke 2 "say" say "say Ann and Bob" false ["Ann", "and", "Bob"]]
    ∧ scope.compile broken = .error (.invalidWait 3 "Ann")
    ∧ longer.compile broken = .error (.invalidWait 3 "Ann")
  := by
  intro say scope longer raw broken
  have hgiven : scope.params ≠ [] := by decide
  have hraw : scope.compile raw
      = .ok [.invoke 2 "say" say "say Ann and Bob" false ["Ann", "and", "Bob"]] := by
    decide +kernel
  have hbroken : scope.compile broken = .error (.invalidWait 3 "Ann") := by
    decide +kernel
  have hmore := compile_append_params scope ["Cid"] hgiven
  exact ⟨hgiven, hraw, (hmore raw).1 _ hraw, hbroken,
    (hmore broken).2 _ hbroken (by simp) (by simp)⟩

/-- Without any argument a line is left as it is, and so the first one that is given may change
it. -/
example :
    let say : Command := { given := ["say"] }
    let scope (params : List String) : Scope :=
      { name := "hello", params, commands := [say], specifiers := {} }
    (scope []).compile "/say \x7b" = .ok [.invoke 1 "say" say "say \x7b" false ["\x7b"]]
      ∧ (scope ["Ann"]).compile "/say \x7b" = .error (.unbound 1 (.malformed 6)) := by
  decide +kernel

end Scope

end Script

end CommandTimelines
