import CommandTimelines.Proofs.History
import Mathlib.Data.List.Nodup

/-!
# Timelines and their runs

Each key has at most one timeline, a timeline remembers the latest of its runs, and a run that
has not ended is the one that its timeline remembers (`Server.Kept`). So a timeline is active
if and only if one of its runs has not ended, and then there is just one such run.
-/

namespace CommandTimelines.Server

open Script

variable (s : Server)

/-! ### The current run of a timeline -/

/-- Changing timelines but not their keys does not change which one a key leads to. -/
theorem find?_map_key {f : Timeline → Timeline} (hf : ∀ t, (f t).key = t.key)
    (timelines : List Timeline) (key : String) :
  (timelines.map f).find? (·.key == key) = (timelines.find? (·.key == key)).map f
  := by
  have hcomp : (fun t : Timeline => t.key == key) ∘ f = fun t => t.key == key := by
    funext t
    simp [hf]
  rw [List.find?_map, hcomp]

/-- The current run that a list of timelines gives for a key. -/
def currentIn (timelines : List Timeline) (key : String) : Option RunId :=
  (timelines.find? (·.key == key)).bind (·.current)

/-- Beginning more actions leaves the current runs as they are. -/
@[simp]
theorem currentIn_timelinesWith (key : String) (more : Nat) (other : String) :
  currentIn (s.timelinesWith key more) other = s.currentRun? other
  := by
  rw [currentIn, timelinesWith, find?_map_key, Option.bind_map, currentRun?, timeline?]
  · congr 1
    funext t
    simp only [Function.comp]
    split <;> rfl
  · intro t
    split <;> rfl

/-- A new run becomes the current one of its timeline. -/
theorem currentIn_timelinesAt_self {key : String} (h : (s.timeline? key).isSome)
    (id : RunId) :
  currentIn (s.timelinesAt key id) key = some id
  := by
  obtain ⟨t, ht⟩ := Option.isSome_iff_exists.mp h
  have hkey : t.key = key := by
    rw [timeline?] at ht
    simpa using List.find?_some ht
  rw [currentIn, timelinesAt, find?_map_key]
  · rw [timeline?] at ht
    simp [ht, hkey]
  · intro t
    split <;> rfl

/-- A new run leaves the current runs of other timelines as they are. -/
theorem currentIn_timelinesAt_of_ne {key other : String} (h : other ≠ key) (id : RunId) :
  currentIn (s.timelinesAt key id) other = s.currentRun? other
  := by
  rw [currentIn, timelinesAt, find?_map_key, currentRun?, timeline?]
  · cases hfind : s.timelines.find? (·.key == other) with
    | none => rfl
    | some t =>
      have hkey : t.key = other := by simpa using List.find?_some hfind
      simp [hkey, h]
  · intro t
    split <;> rfl

/-- Enrolling a timeline gives it no run. -/
@[simp]
theorem currentRun?_enroll (key other : String) :
  (s.enroll key).currentRun? other = s.currentRun? other
  := by
  rw [enroll]
  split
  · rfl
  · simp only [currentRun?, timeline?, List.find?_append]
    cases s.timelines.find? (·.key == other) with
    | some t => rfl
    | none =>
      simp only [Option.none_or, List.find?_cons, List.find?_nil]
      split <;> rfl

/-- A run is running if it is there and has not ended. -/
theorem isRunning_iff (id : RunId) :
  s.isRunning id ↔ ∃ run, s.runs[id]? = some run ∧ run.isRunning
  := by
  rw [isRunning, runState]
  cases s.runs[id]? with
  | none => simp
  | some run => simp [Run.isRunning]

theorem isActive_iff_currentRun? (key : String) :
  s.isActive key ↔ ∃ id, s.currentRun? key = some id ∧ s.isRunning id
  := by
  rw [isActive]
  cases s.currentRun? key <;> simp

/-- Enrolling a timeline starts no run. -/
theorem isActive_enroll (key other : String) :
  (s.enroll key).isActive other = s.isActive other
  := by
  rw [isActive]
  rw [currentRun?_enroll]
  obtain ⟨timelines, heq⟩ := enroll_eq s key
  rw [heq]
  rfl

/-! ### What timelines remember -/

/-- What holds of the timelines of a server and its runs. -/
structure Kept (s : Server) : Prop where
  keys_nodup : (s.timelines.map (·.key)).Nodup
  /-- A timeline remembers one of its runs. -/
  key_of_current : ∀ key id, s.currentRun? key = some id →
    ∃ run, s.runs[id]? = some run ∧ run.key = key
  /-- The run that a timeline remembers is the latest one, and the only one that may not have
  ended. -/
  current_of_run : ∀ id run, s.runs[id]? = some run →
    ∃ current, s.currentRun? run.key = some current ∧ id ≤ current ∧
      (run.isRunning → id = current)

/-- What timelines remember depends on the timelines and the runs alone. -/
theorem Kept.congr {s t : Server} (h : s.Kept) (htimelines : t.timelines = s.timelines)
    (hruns : t.runs = s.runs) :
  t.Kept
  := by
  have hcurrent : ∀ key, t.currentRun? key = s.currentRun? key := by
    intro key
    rw [currentRun?, timeline?, htimelines]
    rfl
  constructor
  · rw [htimelines]
    apply h.keys_nodup
  · intro key id hid
    rw [hruns]
    apply h.key_of_current key id
    rwa [hcurrent] at hid
  · intro id run hrun
    rw [hcurrent]
    apply h.current_of_run id run
    rwa [hruns] at hrun

theorem Kept.enroll {s : Server} (h : s.Kept) (key : String) :
  (s.enroll key).Kept
  := by
  have hruns : (s.enroll key).runs = s.runs := by
    obtain ⟨timelines, heq⟩ := enroll_eq s key
    rw [heq]
  constructor
  · rw [Server.enroll]
    split
    · apply h.keys_nodup
    · rename_i hnone
      have hnew : ∀ t ∈ s.timelines, t.key ≠ key := by
        simpa [timeline?] using hnone
      simp only [List.map_append, List.map_cons, List.map_nil]
      rw [List.nodup_append]
      refine ⟨h.keys_nodup, List.nodup_singleton key, ?_⟩
      intro other hother added hadded
      obtain ⟨t, ht, rfl⟩ := List.mem_map.mp hother
      rw [List.mem_singleton.mp hadded]
      apply hnew t ht
  · intro other id hid
    rw [hruns]
    apply h.key_of_current other id
    simpa using hid
  · intro id run hrun
    rw [currentRun?_enroll]
    apply h.current_of_run id run
    rwa [hruns] at hrun

theorem map_key_timelinesWith (key : String) (more : Nat) :
  (s.timelinesWith key more).map (·.key) = s.timelines.map (·.key)
  := by
  rw [timelinesWith, List.map_map]
  congr 1
  funext t
  simp only [Function.comp]
  split <;> rfl

theorem map_key_timelinesAt (key : String) (id : RunId) :
  (s.timelinesAt key id).map (·.key) = s.timelines.map (·.key)
  := by
  rw [timelinesAt, List.map_map]
  congr 1
  funext t
  simp only [Function.comp]
  split <;> rfl

/-- A run that is launched where none is running becomes the one that its timeline
remembers. -/
theorem Kept.launch {s : Server} (h : s.Kept) (run : Run)
    (hidle : s.isActive run.key = false) (hknown : (s.timeline? run.key).isSome)
    (turns : List RunId) (journal : List Entry) :
  Kept { s with
    runs := s.runs ++ [run], turns
    timelines := s.timelinesAt run.key s.runs.length, journal }
  := by
  have hself := currentIn_timelinesAt_self s hknown s.runs.length
  constructor
  · rw [map_key_timelinesAt]
    apply h.keys_nodup
  · intro key id hid
    by_cases hkey : key = run.key
    · subst hkey
      obtain rfl := Option.some.inj (hself.symm.trans hid)
      use run
      simp
    · have hold := (currentIn_timelinesAt_of_ne s hkey s.runs.length).symm.trans hid
      obtain ⟨run', hrun', hkey'⟩ := h.key_of_current key id hold
      have hlt := (List.getElem?_eq_some_iff.mp hrun').1
      use run', ?_
      rw [List.getElem?_append_left hlt, hrun']
  · intro id run' hrun'
    by_cases hid : id = s.runs.length
    · obtain rfl : run = run' := by simpa [hid] using hrun'
      exact ⟨s.runs.length, hself, Nat.le_of_eq hid, fun _ => hid⟩
    · have hlt : id < (s.runs ++ [run]).length := (List.getElem?_eq_some_iff.mp hrun').1
      rw [List.length_append, List.length_singleton] at hlt
      have hold : id < s.runs.length := Nat.lt_of_le_of_ne (Nat.lt_succ_iff.mp hlt) hid
      rw [List.getElem?_append_left hold] at hrun'
      obtain ⟨current, hcurrent, hle, honly⟩ := h.current_of_run id run' hrun'
      by_cases hkey : run'.key = run.key
      · refine ⟨s.runs.length, by rw [hkey]; exact hself, Nat.le_of_lt hold, ?_⟩
        intro hrunning
        -- A run that has not ended would have ruled out the launch.
        have hactive : s.isActive run.key := by
          rw [isActive_iff_currentRun?, ← hkey]
          use current, hcurrent
          rw [isRunning_iff, ← honly hrunning]
          use run'
        rw [hidle] at hactive
        cases hactive
      · exact ⟨current, (currentIn_timelinesAt_of_ne s hkey _).trans hcurrent, hle, honly⟩

/-- What timelines remember outlasts the steps of runs. -/
theorem Kept.work {s : Server} (h : s.Kept) {id : RunId} {run run' : Run}
    {facts : List Fact} {now : Nat} (hrun : s.runs[id]? = some run)
    (hnext : Run.Next id now run facts run') (more : Nat) (pending : List Pending)
    (journal : List Entry) :
  Kept { s with
    runs := s.runs.set id run'
    timelines := s.timelinesWith run.key more, pending, journal }
  := by
  have hlt := (List.getElem?_eq_some_iff.mp hrun).1
  have hcurrent := currentIn_timelinesWith s run.key more
  constructor
  · rw [map_key_timelinesWith]
    apply h.keys_nodup
  · intro key current hkey
    obtain ⟨run'', hrun'', hkey''⟩ := h.key_of_current key current
      ((hcurrent key).symm.trans hkey)
    by_cases hid : current = id
    · subst hid
      obtain rfl := Option.some.inj (hrun.symm.trans hrun'')
      use run'
      simp [hlt, hnext.key_eq.1, hkey'']
    · use run'', ?_
      rw [List.getElem?_set_ne (Ne.symm hid), hrun'']
  · intro other run'' hrun''
    by_cases hother : other = id
    · subst hother
      obtain rfl : run' = run'' := by simpa [hlt] using hrun''
      obtain ⟨current, hcur, hle, honly⟩ := h.current_of_run other run hrun
      refine ⟨current, ?_, hle, fun hrunning => honly (hnext.isRunning_of hrunning)⟩
      rw [hnext.key_eq.1]
      apply (hcurrent run.key).trans hcur
    · rw [List.getElem?_set_ne (Ne.symm hother)] at hrun''
      obtain ⟨current, hcur, hle, honly⟩ := h.current_of_run other run'' hrun''
      exact ⟨current, (hcurrent run''.key).trans hcur, hle, honly⟩

/-- However a server comes about, its timelines remember their runs. -/
theorem Reachable.kept {s : Server} (h : Reachable s) :
  s.Kept
  := by
  induction h with
  | new settings commands awaiting =>
    constructor
    · apply List.nodup_nil
    · intro key id hid
      cases hid
    · intro id run hrun
      cases hrun
  | change _ hchange ih =>
    cases hchange with
    | aside commands awaiting hturns hclock => exact ih.congr rfl rfl
    | record fact hrun hstops => exact ih.congr rfl rfl
    | enroll key => apply ih.enroll
    | launch o body cleanUp hidle hknown hbody hcleanUp =>
      apply ih.launch { key := o.key, body, cleanUp } hidle hknown
    | work hrun hnext hfollows => apply ih.work hrun hnext
    | serve hserved => exact ih.congr rfl rfl

/-! ### Running runs -/

/-- A run that has not ended makes its timeline active. -/
theorem Kept.isActive_of_isRunning {s : Server} (h : s.Kept) {id : RunId} {run : Run}
    (hrun : s.runs[id]? = some run) (hrunning : run.isRunning) :
  s.isActive run.key
  := by
  obtain ⟨current, hcurrent, -, honly⟩ := h.current_of_run id run hrun
  rw [isActive_iff_currentRun?]
  use current, hcurrent
  rw [isRunning_iff, ← honly hrunning]
  use run

/-- A timeline is active if one of its runs has not ended. -/
theorem Kept.isActive_iff {s : Server} (h : s.Kept) (key : String) :
  s.isActive key ↔ ∃ id : RunId, ∃ run : Run, s.runs[id]? = some run ∧ run.key = key ∧ run.isRunning
  := by
  constructor
  · intro hactive
    obtain ⟨id, hcurrent, hrunning⟩ := (isActive_iff_currentRun? s key).mp hactive
    obtain ⟨run, hrun, hrunning⟩ := (isRunning_iff s id).mp hrunning
    obtain ⟨run', hrun', hkey⟩ := h.key_of_current key id hcurrent
    obtain rfl := Option.some.inj (hrun.symm.trans hrun')
    use id, run
  · rintro ⟨id, run, hrun, rfl, hrunning⟩
    apply h.isActive_of_isRunning hrun hrunning

/-- No two runs of a timeline run at the same time. -/
theorem Kept.eq_of_isRunning {s : Server} (h : s.Kept) {id id' : RunId} {run run' : Run}
    (hrun : s.runs[id]? = some run) (hrun' : s.runs[id']? = some run')
    (hkey : run.key = run'.key) (hrunning : run.isRunning) (hrunning' : run'.isRunning) :
  id = id'
  := by
  obtain ⟨current, hcurrent, -, honly⟩ := h.current_of_run id run hrun
  obtain ⟨current', hcurrent', -, honly'⟩ := h.current_of_run id' run' hrun'
  rw [hkey, hcurrent'] at hcurrent
  rw [honly hrunning, honly' hrunning', Option.some.inj hcurrent]

/-! ### When timelines become active and stop being so -/

section

variable {s} {t : Server} {id : RunId} {run run' : Run}

/-- Which runs are running after one of them has changed. -/
theorem isRunning_of_set (hruns : t.runs = s.runs.set id run')
    (hrun : s.runs[id]? = some run) (other : RunId) :
  t.isRunning other = if other = id then run'.isRunning else s.isRunning other
  := by
  have hlt := (List.getElem?_eq_some_iff.mp hrun).1
  unfold isRunning runState
  rw [hruns]
  by_cases hother : other = id
  · rw [if_pos hother, hother, List.getElem?_set_self hlt]
    rfl
  · rw [if_neg hother, List.getElem?_set_ne (Ne.symm hother)]

/-- A step of a run changes which timelines are active only if the run ends by it. -/
theorem isActive_of_set (hruns : t.runs = s.runs.set id run')
    (hcurrent : ∀ key, t.currentRun? key = s.currentRun? key)
    (hrun : s.runs[id]? = some run) (hsame : run'.isRunning = run.isRunning) (key : String) :
  t.isActive key = s.isActive key
  := by
  have hrunning : ∀ other, t.isRunning other = s.isRunning other := by
    intro other
    rw [isRunning_of_set hruns hrun]
    split
    · rename_i hother
      rw [hother, hsame, isRunning, runState, hrun]
      rfl
    · rfl
  unfold isActive
  rw [hcurrent]
  cases s.currentRun? key with
  | none => rfl
  | some current => apply hrunning

/-- A step of a run leaves other timelines as active as they are. -/
theorem Kept.isActive_of_set_of_ne (h : s.Kept) (hruns : t.runs = s.runs.set id run')
    (hcurrent : ∀ key, t.currentRun? key = s.currentRun? key)
    (hrun : s.runs[id]? = some run) {key : String} (hkey : key ≠ run.key) :
  t.isActive key = s.isActive key
  := by
  unfold isActive
  rw [hcurrent]
  cases hcur : s.currentRun? key with
  | none => rfl
  | some current =>
    simp only
    rw [isRunning_of_set hruns hrun, if_neg]
    rintro rfl
    obtain ⟨run'', hrun'', hkey''⟩ := h.key_of_current key current hcur
    rw [hrun] at hrun''
    apply hkey
    rw [← hkey'', Option.some.inj hrun'']

/-- Where a run ends, its timeline stops being active. -/
theorem Kept.isActive_of_set_eq_false (h : s.Kept) (hruns : t.runs = s.runs.set id run')
    (hcurrent : ∀ key, t.currentRun? key = s.currentRun? key)
    (hrun : s.runs[id]? = some run) (hrunning : run.isRunning)
    (hended : run'.isRunning = false) :
  t.isActive run.key = false
  := by
  obtain ⟨current, hcur, -, honly⟩ := h.current_of_run id run hrun
  rw [isActive]
  rw [hcurrent, hcur]
  simp only
  rw [isRunning_of_set hruns hrun, if_pos (honly hrunning).symm, hended]

/-- Where a run is launched, its timeline is active. -/
theorem isActive_of_launch (hruns : t.runs = s.runs ++ [run])
    (htimelines : t.timelines = s.timelinesAt run.key s.runs.length)
    (hknown : (s.timeline? run.key).isSome) (hrunning : run.isRunning) :
  t.isActive run.key
  := by
  rw [isActive_iff_currentRun?]
  use s.runs.length
  constructor
  · rw [currentRun?, timeline?, htimelines]
    apply currentIn_timelinesAt_self s hknown
  · rw [isRunning_iff]
    use run
    simp [hruns, hrunning]

/-- A launch leaves other timelines as active as they are. -/
theorem Kept.isActive_of_launch_of_ne (h : s.Kept) (hruns : t.runs = s.runs ++ [run])
    (htimelines : t.timelines = s.timelinesAt run.key s.runs.length) {key : String}
    (hkey : key ≠ run.key) :
  t.isActive key = s.isActive key
  := by
  have hcurrent : t.currentRun? key = s.currentRun? key := by
    rw [currentRun?, timeline?, htimelines]
    apply currentIn_timelinesAt_of_ne s hkey
  unfold isActive
  rw [hcurrent]
  cases hcur : s.currentRun? key with
  | none => rfl
  | some current =>
    obtain ⟨run'', hrun'', -⟩ := h.key_of_current key current hcur
    have hlt := (List.getElem?_eq_some_iff.mp hrun'').1
    simp only [isRunning, runState]
    rw [hruns, List.getElem?_append_left hlt]

end

end CommandTimelines.Server
