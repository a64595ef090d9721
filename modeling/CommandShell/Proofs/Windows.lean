import CommandShell.Proofs.Recording
import Mathlib.Data.List.DropRight

/-!
# A history as a window

A history with a limit beside a chronicle, which records the same way and never drops anything.
Both have the same newest entry, and no more than that is looked at when a line comes. So the
history records the lines that the chronicle records, and its entries are always the newest of the
chronicle.
-/
namespace CommandShell
open Text

/-- What has been entered, without a limit. -/
structure Chronicle where
  lines : List String

/-- Records a line, and says whether it did. -/
def Chronicle.add (c : Chronicle) (line : String) : Bool × Chronicle :=
  if !History.isRecordable line then (false, c)
  else if c.lines.getLast? = some (trim line) then (false, c)
  else (true, ⟨c.lines ++ [trim line]⟩)

/-- What comes of lines, one after the other: what is said to each, and what there is then. -/
def courseOf {α : Type} (add : α → String → Bool × α) : α → List String → List (Bool × α)
  | _, [] => []
  | a, line :: rest => add a line :: courseOf add (add a line).2 rest

lemma Chronicle.length_add_le (c : Chronicle) (line : String) :
    (c.add line).2.lines.length ≤ c.lines.length + 1 := by
  unfold Chronicle.add
  split
  · exact Nat.le_succ _
  · split
    · exact Nat.le_succ _
    · simp

lemma Chronicle.length_le_of_mem_course {c : Chronicle} {added : List String}
    {step : Bool × Chronicle} (h : step ∈ courseOf Chronicle.add c added) :
    step.2.lines.length ≤ c.lines.length + added.length := by
  induction added generalizing c with
  | nil => cases h
  | cons line rest ih =>
    have hline := c.length_add_le line
    rw [List.length_cons]
    obtain rfl | hlater := List.mem_cons.1 h
    · omega
    · have hrest := ih hlater
      omega

namespace History
variable {h : History} {c : Chronicle}

/-- Whether a history has the newest entries of a chronicle. -/
structure IsWindow (h : History) (c : Chronicle) : Prop where
  limit_pos : 0 < h.limit
  lines_eq : h.lines = lastLines h.limit c.lines

lemma IsWindow.getLast?_eq (hwindow : IsWindow h c) : h.lines.getLast? = c.lines.getLast? := by
  rw [hwindow.lines_eq, getLast?_lastLines hwindow.limit_pos]

lemma IsWindow.add (hwindow : IsWindow h c) (line : String) :
    (h.add line).1 = (c.add line).1 ∧ IsWindow (h.add line).2 (c.add line).2 := by
  -- What has gone from the history is never asked for: both compare with the same newest entry.
  have hlast := hwindow.getLast?_eq
  have hlimit : 0 < (h.add line).2.limit := by
    rw [add_limit]
    exact hwindow.limit_pos
  obtain ⟨hadd, hwhy⟩ | ⟨hadd, hline, hnew⟩ := add_cases h line
  · have hchronicle : c.add line = (false, c) := by
      obtain hline | hold := hwhy
      · simp [Chronicle.add, hline]
      · simp [Chronicle.add, ← hlast, hold]
    rw [hadd, hchronicle]
    exact ⟨rfl, hwindow⟩
  · have hchronicle : c.add line = (true, ⟨c.lines ++ [trim line]⟩) := by
      simp [Chronicle.add, hline, ← hlast, hnew]
    have hrecorded : (h.add line).1 = true := by rw [hadd]
    have hlines : (h.add line).2.lines =
        lastLines (h.add line).2.limit (c.lines ++ [trim line]) := by
      rw [add_lines_of_recorded hwindow.limit_pos hrecorded, add_limit, hwindow.lines_eq,
        lastLines_append hwindow.limit_pos]
    rw [hrecorded, hchronicle]
    exact ⟨rfl, hlimit, hlines⟩

lemma IsWindow.course (hwindow : IsWindow h c) (added : List String) :
    (courseOf History.add h added).map (fun step => (step.1, step.2.lines)) =
      (courseOf Chronicle.add c added).map fun step =>
        (step.1, lastLines h.limit step.2.lines) := by
  induction added generalizing h c with
  | nil => rfl
  | cons line rest ih =>
    obtain ⟨hsame, hnext⟩ := hwindow.add line
    have hrest := ih hnext
    rw [add_limit] at hrest
    have hlines := hnext.lines_eq
    rw [add_limit] at hlines
    rw [courseOf, courseOf, List.map_cons, List.map_cons, hrest, hsame, hlines]

lemma lastLines_eq_rtake {m : ℕ} (hm : 1 ≤ m) (lines : List String) :
    lastLines m lines = lines.rtake m :=
  lastLines_of_pos (by omega) lines

end History

/-- A history with room for `m` entries records the lines that a chronicle does which begins with
the same lines, and at the start and after each line it has the last `m` entries of it: all of them
as long as there is room for all. -/
theorem bounded_history_is_window (lines added : List String) (m : ℕ) (hm : 1 ≤ m) :
    let bounded := (courseOf History.add (.ofLines lines m) added).map fun step =>
      (step.1, step.2.lines)
    let chronicle := (courseOf Chronicle.add ⟨lines⟩ added).map fun step => (step.1, step.2.lines)
    (History.ofLines lines m).lines = lines.rtake m ∧
      bounded = chronicle.map (fun step => (step.1, step.2.rtake m)) ∧
      (lines.length + added.length ≤ m → bounded = chronicle) := by
  intro bounded chronicle
  have hstart : (History.ofLines lines m).lines = lines.rtake m :=
    History.lastLines_eq_rtake hm lines
  have hlimit : (0 : Int) < m := by omega
  have hwindow : History.IsWindow (.ofLines lines m) ⟨lines⟩ := ⟨hlimit, rfl⟩
  have hcourse : bounded = chronicle.map fun step => (step.1, step.2.rtake m) := by
    have hlast : bounded = (courseOf Chronicle.add ⟨lines⟩ added).map fun step =>
        (step.1, History.lastLines m step.2.lines) := hwindow.course added
    simp only [History.lastLines_eq_rtake hm] at hlast
    rw [hlast, List.map_map]
    rfl
  refine ⟨hstart, hcourse, fun hroom => ?_⟩
  have hall : ∀ step ∈ chronicle, (step.1, step.2.rtake m) = step := by
    intro step hstep
    obtain ⟨there, hthere, rfl⟩ := List.mem_map.1 hstep
    have hlength : there.2.lines.length ≤ lines.length + added.length :=
      Chronicle.length_le_of_mem_course hthere
    have hgone : there.2.lines.length - m = 0 := by omega
    rw [List.rtake, hgone, List.drop_zero]
  rw [hcourse, List.map_congr_left hall, List.map_id']

/-- With room for two entries the oldest has gone when it is entered again. -/
theorem bounded_history_is_window_of_two :
    let lines := ["a", "b", "c"]
    let added := ["c ", " x", "d", "a", "d"]
    let m : ℕ := 2
    1 ≤ m ∧ (History.ofLines lines m).lines = ["b", "c"] ∧
      (courseOf History.add (.ofLines lines m) added).map (fun step => (step.1, step.2.lines)) =
        [(false, ["b", "c"]), (false, ["b", "c"]), (true, ["c", "d"]), (true, ["d", "a"]),
          (true, ["a", "d"])] := by
  intro lines added m
  have hm : 1 ≤ m := by decide
  obtain ⟨hstart, hcourse, -⟩ := bounded_history_is_window lines added m hm
  refine ⟨hm, ?_, ?_⟩
  · rw [hstart]
    decide
  · rw [hcourse]
    decide

end CommandShell
