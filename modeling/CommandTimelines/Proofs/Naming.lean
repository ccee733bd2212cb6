import CommandTimelines.Proofs.LetterCase
import CommandTimelines.Proofs.Sparing

/-!
# Commands and their names

The commands of a server are those that were registered, in their order, whatever else happens
(`Session.commands_foldl_happen`). Their names are kept in lower case, by all the rules of
lower-casing, and compared with what is looked up by the case of ASCII letters only. So a command
answers to a spelling of one of its names exactly if ASCII letters are all that lower-casing changes
in the spelling (`Host.Command.answersTo_iff`), and it need not answer to a name as it was given
(`Session.allNamed_accent`).
-/

namespace CommandTimelines

open Host Text

/-- A command answers to each of its names in lower case. -/
theorem Host.Command.answersTo_lower {c : Command} {given : String} (h : given ∈ c.given) :
  c.answersTo (lower given)
  := by
  rw [answersTo, List.any_eq_true]
  exact ⟨lower given, List.mem_map_of_mem h, sameLetters_refl _⟩

/-- A command answers to what is one of its names once both are lower-cased, provided that
lower-casing changes nothing but ASCII letters in it. -/
theorem Host.Command.answersTo_iff (c : Command) (name : String) :
  c.answersTo name ↔ (∃ given ∈ c.given, lower given = lower name) ∧ lower name = lowerAscii name
  := by
  have hgiven : c.answersTo name ↔ ∃ given ∈ c.given, lower given = lowerAscii name := by
    simp [answersTo, names, sameLetters_lower_iff]
  rw [hgiven]
  constructor
  · rintro ⟨given, hmem, hlower⟩
    have hname := lower_eq_lowerAscii hlower
    exact ⟨⟨given, hmem, hlower.trans hname.symm⟩, hname⟩
  · rintro ⟨⟨given, hmem, hlower⟩, hname⟩
    exact ⟨given, hmem, hlower.trans hname⟩

/-- The commands that are registered by what happens. -/
def Happening.registered : Happening → List Command
  | .perform _ step => step.registered
  | _ => []

namespace Session

theorem commands_happen_append (session : Session) (x : Happening) :
  (session.happen x).server.commands = session.server.commands ++ x.registered
  := by
  cases x with
  | perform index step => exact session.commands_perform index step
  | _ =>
    rw [Happening.registered, List.append_nil]
    · exact commands_happen nofun
    · exact nofun

/-- Commands are kept in the order in which they are registered. -/
theorem commands_foldl_happen (xs : List Happening) :
  ∀ session : Session, (xs.foldl happen session).server.commands
    = session.server.commands ++ xs.flatMap Happening.registered
  := by
  induction xs with
  | nil =>
    intro session
    exact (List.append_nil _).symm
  | cons x xs ih =>
    intro session
    rw [List.foldl_cons, ih, commands_happen_append, List.append_assoc, List.flatMap_cons]

/-- What a filter keeps of a list, by places. -/
theorem exists_places_filter {α : Type} (p : α → Bool) (list : List α) :
  ∃ places : List (Fin list.length), places.Pairwise (· < ·) ∧
    list.filter p = places.map list.get ∧ ∀ place, place ∈ places ↔ p (list.get place)
  := by
  refine ⟨(List.finRange list.length).filter fun place => p (list.get place), ?_, ?_, ?_⟩
  · exact (List.pairwise_lt_finRange _).filter _
  · conv_lhs => rw [← List.map_get_finRange list]
    exact List.filter_map
  · intro place
    simp

/-- Whatever has happened, each of the commands that have been registered is found, and found once,
under the spellings of its names in which lower-casing changes nothing but ASCII letters, and under
no other text. The commands that are found stand in the order of their registration. One such
spelling is the name in lower case. -/
theorem findsRegistered (session : Session) (xs : List Happening) :
  let registered := session.server.commands ++ xs.flatMap Happening.registered
  let find := Command.allNamed (xs.foldl happen session).server.commands
  (∀ name, ∃ places : List (Fin registered.length), places.Pairwise (· < ·) ∧
    find name = places.map registered.get ∧
    ∀ place, place ∈ places ↔
      (∃ given ∈ (registered.get place).given, lower given = lower name)
        ∧ lower name = lowerAscii name) ∧
  ∀ command ∈ registered, ∀ given ∈ command.given, command ∈ find (lower given)
  := by
  intro registered find
  have hcommands : (xs.foldl happen session).server.commands = registered :=
    commands_foldl_happen xs session
  have hfind : ∀ name, find name = registered.filter (·.answersTo name) := by
    intro name
    rw [← hcommands]
    rfl
  constructor
  · intro name
    obtain ⟨places, hpairwise, hplaces, hmem⟩ := exists_places_filter (·.answersTo name) registered
    refine ⟨places, hpairwise, (hfind name).trans hplaces, ?_⟩
    intro place
    rw [hmem, Command.answersTo_iff]
  · intro command hcommand given hgiven
    rw [hfind, List.mem_filter]
    exact ⟨hcommand, Command.answersTo_lower hgiven⟩

/-- A command that is registered twice, between which time passes, is found in both places. -/
theorem findsRegistered_say :
  let say : Command := { given := ["Say", "É"] }
  let xs : List Happening :=
    [.perform 0 (.register say), .pass 5, .perform 1 (.register say)]
  let registered : List Command := [say, say]
  let find := Command.allNamed (xs.foldl happen {}).server.commands
  (∃ places : List (Fin registered.length), places.Pairwise (· < ·) ∧
    find "SAY" = places.map registered.get ∧ 0 ∈ places ∧ 1 ∈ places) ∧
  say ∈ registered ∧ "É" ∈ say.given ∧ say ∈ find "é"
  := by
  intro say xs registered find
  obtain ⟨hspelled, hlower⟩ := findsRegistered {} xs
  have hsay : lower "Say" = lower "SAY" ∧ lower "SAY" = lowerAscii "SAY" := by decide +kernel
  have haccent : lower "É" = "é" := by decide +kernel
  have hmem : say ∈ registered := List.mem_cons_self
  have hgiven : "É" ∈ say.given := List.mem_cons_of_mem _ List.mem_cons_self
  constructor
  · obtain ⟨places, hpairwise, hfind, hplaces⟩ := hspelled "SAY"
    refine ⟨places, hpairwise, hfind, ?_, ?_⟩
    · exact (hplaces (0 : Fin registered.length)).mpr ⟨⟨"Say", List.mem_cons_self, hsay.1⟩, hsay.2⟩
    · exact (hplaces (1 : Fin registered.length)).mpr ⟨⟨"Say", List.mem_cons_self, hsay.1⟩, hsay.2⟩
  · refine ⟨hmem, hgiven, ?_⟩
    rw [← haccent]
    exact hlower say hmem "É" hgiven

/-- A command that was registered under a name with an accent is not found under this name, but
under the same name in lower case. -/
theorem allNamed_accent :
  let command : Command := { given := ["É"] }
  let session := happen {} (.perform 0 (.register command))
  let find := Command.allNamed session.server.commands
  session.server.commands = [command] ∧ find "É" = [] ∧ find "é" = [command]
  := by decide +kernel

end Session

end CommandTimelines
