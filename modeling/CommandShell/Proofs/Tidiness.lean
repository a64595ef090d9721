import CommandShell.Proofs.Recording
import Mathlib.Data.List.Chain
import Mathlib.Data.List.DropRight

/-!
# Entries stay tidy

What the entries of a history look like: none is blank, none has a blank at an end and none is the
same as its neighbour. A line that is recorded keeps this, since its entry is trimmed and differs
from the newest one, and so do the oldest entries that make room. As the newest entry is then a
different one, each line that is recorded can be seen to be.
-/
namespace CommandShell
open Text

namespace Text

lemma isBlank_of_head?_trim {s : String} {c : Char} (h : (trim s).toList.head? = some c) :
    isBlank c = false := by
  rw [trim, String.toList_ofList] at h
  have hpre : trimList s.toList <+: s.toList.dropWhile isBlank :=
    List.rdropWhile_prefix isBlank (s.toList.dropWhile isBlank)
  obtain ⟨rest, hrest⟩ := hpre
  have hhead : (s.toList.dropWhile isBlank).head? = some c := by simp [← hrest, h]
  have hnot := List.head?_dropWhile_not isBlank s.toList
  simpa [hhead] using hnot

lemma isBlank_of_getLast?_trim {s : String} {c : Char} (h : (trim s).toList.getLast? = some c) :
    isBlank c = false := by
  rw [trim, String.toList_ofList, trimList, List.getLast?_reverse] at h
  have hnot := List.head?_dropWhile_not isBlank (s.toList.dropWhile isBlank).reverse
  simpa [h] using hnot

end Text

namespace History
variable {h : History} {entries : List String} {line : String}

/-- An entry holds more than blanks, and none at its ends. -/
structure Neat (entry : String) : Prop where
  filled : isBlankLine entry = false
  first : ∀ c ∈ entry.toList.head?, isBlank c = false
  last : ∀ c ∈ entry.toList.getLast?, isBlank c = false

lemma neat_trim (hblank : isBlankLine line = false) : Neat (trim line) where
  filled := by rw [isBlankLine_trim, hblank]
  first _ hc := isBlank_of_head?_trim hc
  last _ hc := isBlank_of_getLast?_trim hc

/-- What holds of the entries of a history at any time. -/
structure Tidy (entries : List String) : Prop where
  neat : ∀ entry ∈ entries, Neat entry
  apart : entries.IsChain (· ≠ ·)

lemma tidy_nil : Tidy [] := ⟨nofun, .nil⟩

lemma Tidy.concat (htidy : Tidy entries) (hblank : isBlankLine line = false)
    (hnew : entries.getLast? ≠ some (trim line)) : Tidy (entries ++ [trim line]) where
  neat := by
    intro entry hentry
    obtain hold | hline := List.mem_append.1 hentry
    · exact htidy.neat entry hold
    · rw [List.mem_singleton.1 hline]
      exact neat_trim hblank
  apart := by
    refine htidy.apart.append (.singleton _) ?_
    rintro newest hnewest _ ⟨⟩ rfl
    exact hnew hnewest

lemma Tidy.lastLines {limit : Int} (htidy : Tidy entries) (hlimit : 0 < limit) :
    Tidy (lastLines limit entries) where
  neat entry hentry := htidy.neat entry (mem_of_mem_lastLines hentry)
  apart := by
    rw [lastLines_of_pos hlimit]
    exact htidy.apart.drop _

lemma Tidy.add (htidy : Tidy h.lines) (hlimit : 0 < h.limit) (line : String) :
    Tidy (h.add line).2.lines := by
  obtain ⟨hadd, -⟩ | ⟨hadd, hline, hnew⟩ := add_cases h line
  · rw [hadd]
    exact htidy
  · have hrecorded : (h.add line).1 = true := by rw [hadd]
    rw [add_lines_of_recorded hlimit hrecorded]
    exact (htidy.concat (isRecordable_iff.1 hline).1 hnew).lastLines hlimit

lemma add_sublist (hlimit : 0 < h.limit) (line : String) :
    (h.add line).2.lines.Sublist (h.lines ++ [trim line]) := by
  cases hadd : (h.add line).1 with
  | true =>
    rw [add_lines_of_recorded hlimit hadd, lastLines_of_pos hlimit]
    exact List.drop_sublist _ _
  | false =>
    rw [add_of_rejected hadd]
    exact List.sublist_append_left _ _

/-- The entry of a line that is recorded is the newest one. -/
lemma getLast?_of_recorded (hlimit : 0 < h.limit) (hadd : (h.add line).1 = true) :
    (h.add line).2.lines.getLast? = some (trim line) := by
  rw [add_lines_of_recorded hlimit hadd, getLast?_lastLines hlimit, List.getLast?_concat]

lemma recorded_iff_ne (hlimit : 0 < h.limit) :
    (h.add line).1 = true ↔ (h.add line).2.lines ≠ h.lines := by
  constructor
  -- The newest entry is another one afterwards, also where there is room for one only.
  · intro hadd hsame
    have hnewest := getLast?_of_recorded hlimit hadd
    rw [hsame] at hnewest
    exact (recorded_iff.1 hadd).2 hnewest
  · intro hne
    by_contra hadd
    rw [add_of_rejected (by simpa using hadd)] at hne
    exact hne rfl

lemma Tidy.addAll (htidy : Tidy h.lines) (hlimit : 0 < h.limit) (added : List String) :
    Tidy (h.addAll added).lines := by
  induction added generalizing h with
  | nil => exact htidy
  | cons line rest ih =>
    have hnext : 0 < (h.add line).2.limit := by rwa [add_limit]
    exact ih (htidy.add hlimit line) hnext

lemma addAll_sublist (hlimit : 0 < h.limit) (added : List String) :
    (h.addAll added).lines.Sublist (h.lines ++ added.map trim) := by
  induction added generalizing h with
  | nil =>
    rw [List.map_nil, List.append_nil]
    exact .refl _
  | cons line rest ih =>
    have hnext : 0 < (h.add line).2.limit := by rwa [add_limit]
    have hrest : (h.addAll (line :: rest)).lines.Sublist
        ((h.add line).2.lines ++ rest.map trim) := ih hnext
    have hline := (add_sublist hlimit line).append (List.Sublist.refl (rest.map trim))
    rw [List.append_assoc] at hline
    exact hrest.trans hline

end History

/-- From tidy entries on, the entries are tidy after any lines, and they are some of those at the
start and of the trimmed lines, in this order. A line that starts with a space leaves everything as
it is. A line is recorded exactly if that changes the entries, and that is so exactly if it is not
blank, does not start with a space and does not make the newest entry again. -/
theorem entries_stay_tidy (h : History) (hlimit : 0 < h.limit) (htidy : History.Tidy h.lines)
    (added : List String) :
    let now := h.addAll added
    History.Tidy now.lines ∧ now.lines.Sublist (h.lines ++ added.map trim) ∧
      ∀ line : String,
        (line.toList.head? = some ' ' → now.add line = (false, now)) ∧
        ((now.add line).1 = true ↔ (now.add line).2.lines ≠ now.lines) ∧
        ((now.add line).1 = true ↔ isBlankLine line = false ∧ line.toList.head? ≠ some ' ' ∧
          now.lines.getLast? ≠ some (trim line)) := by
  intro now
  have hnow : 0 < now.limit := by rwa [History.addAll_limit]
  refine ⟨htidy.addAll hlimit added, History.addAll_sublist hlimit added, fun line => ?_⟩
  have hwhen : (now.add line).1 = true ↔ isBlankLine line = false ∧
      line.toList.head? ≠ some ' ' ∧ now.lines.getLast? ≠ some (trim line) := by
    rw [History.recorded_iff, History.isRecordable_iff, and_assoc]
  refine ⟨fun hspace => History.add_of_rejected ?_, History.recorded_iff_ne hnow, hwhen⟩
  rw [← Bool.not_eq_true, hwhen]
  exact fun hline => hline.2.1 hspace

/-- The oldest entry makes room for the same one. -/
theorem entries_stay_tidy_of_two :
    let h := (History.ofLines [] 2).addAll ["a", "b"]
    let now := h.addAll ["b\t", " x", "a "]
    0 < h.limit ∧ History.Tidy h.lines ∧ now.lines = ["b", "a"] ∧ History.Tidy now.lines ∧
      now.lines.Sublist ["a", "b", "b", "x", "a"] ∧ now.add " c" = (false, now) ∧
      (now.add "c").2.lines ≠ now.lines := by
  intro h now
  have hlimit : 0 < h.limit := by decide
  have htidy : History.Tidy h.lines := History.tidy_nil.addAll (by decide) ["a", "b"]
  obtain ⟨hnow, hsub, hline⟩ := entries_stay_tidy h hlimit htidy ["b\t", " x", "a "]
  have htrimmed : h.lines ++ ["b\t", " x", "a "].map trim = ["a", "b", "b", "x", "a"] := by decide
  rw [htrimmed] at hsub
  exact ⟨hlimit, htidy, by decide, hnow, hsub, (hline " c").1 (by decide),
    (hline "c").2.1.1 (by decide)⟩

end CommandShell
