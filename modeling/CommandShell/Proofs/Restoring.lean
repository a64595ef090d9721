import CommandShell.Proofs.Storing

/-!
# Lines that are saved and loaded

Any lines may be saved, not only the entries of a history. What is loaded from where they are saved
is what each of them holds for itself: its own lines that are not blank, in their order, whatever
stands at its ends. So what has once been loaded is loaded again when it is saved. A device is no
place to save to, as it takes the lines and holds none of them, and neither is a file that may be
written and not read.
-/
namespace CommandShell
open Text

namespace World
variable {v w w' : World} {path file : Path} {lines : List String} {notes : List Note}

/-- Lines that were loaded come from a text, or there was nothing to be used. -/
lemma exists_text_of_loadLines (h : v.loadLines file = .ok (lines, notes)) :
    lines = [] ∨ ∃ s, lines = filledLines s := by
  unfold loadLines at h
  split at h
  · exact .inl (by simp_all)
  · exact .inl (by simp_all)
  · cases h
  · split at h
    · exact .inl (by simp_all)
    next s _ =>
      obtain ⟨hlines, -⟩ := Prod.mk.inj (Except.ok.inj h)
      rw [History.ofText_eq_filledLines] at hlines
      exact .inr ⟨s, hlines.symm⟩

/-- Lines that were loaded are not blank, and no boundary stands inside them. -/
lemma whole_of_loadLines (h : v.loadLines file = .ok (lines, notes)) :
    ∀ line ∈ lines, isBlankLine line = false ∧ ∀ c ∈ line.toList, isBoundary c = false := by
  obtain rfl | ⟨s, rfl⟩ := exists_text_of_loadLines h
  · simp
  · exact fun _ hline => whole_of_mem_filledLines hline

/-- Lines that are saved where no device is are read back each for itself, if they may be read. -/
lemma loadLines_saved (hsave : w.saveLines path lines = (.ok (), w'))
    (hplace : ∀ l d, w'.locate path ≠ .ok (.device l d)) (hreadable : ¬ w'.ForbidsReading path) :
    w'.loadLines path = .ok (lines.flatMap filledLines, []) := by
  obtain ⟨l, d, hdevice⟩ | hforbids | hload := loadLines_of_saveLines hsave
  · exact absurd hdevice (hplace l d)
  · exact absurd hforbids hreadable
  · exact hload

end World

/-- What is loaded from where lines have been saved, unless that is a device or may not be read, is
what is left of the lines of each of them, in their order, when the blank ones are left out. So the
same lines are loaded exactly if none is blank and none has a boundary inside, and lines that have
been loaded from anywhere are loaded again. -/
theorem saved_lines_read_back (w w' : World) (path : Path) (lines : List String)
    (hsave : w.saveLines path lines = (.ok (), w'))
    (hplace : ∀ l d, w'.locate path ≠ .ok (.device l d)) (hreadable : ¬ w'.ForbidsReading path) :
    w'.loadLines path =
        .ok (lines.flatMap fun line => (splitLines line).filter (!isBlankLine ·), []) ∧
      (w'.loadLines path = .ok (lines, []) ↔
        ∀ line ∈ lines, isBlankLine line = false ∧ ∀ c ∈ line.toList, isBoundary c = false) ∧
      ∀ (v : World) (file : Path) (notes : List Note),
        v.loadLines file = .ok (lines, notes) → w'.loadLines path = .ok (lines, []) := by
  have hload := World.loadLines_saved hsave hplace hreadable
  have hsame : w'.loadLines path = .ok (lines, []) ↔
      ∀ line ∈ lines, isBlankLine line = false ∧ ∀ c ∈ line.toList, isBoundary c = false := by
    rw [hload, ← flatMap_filledLines_eq_self_iff]
    simp
  refine ⟨?_, hsame, fun v file notes hloaded => hsame.2 (World.whole_of_loadLines hloaded)⟩
  simpa only [filter_splitLines] using hload

/-- Boundaries at the seams, a carriage return in front of the line feed that is written and a line
feed behind it, neither make nor join lines. -/
theorem saved_lines_read_back_of_seams :
    let path : Path := ⟨.root, ["h"]⟩
    let lines := ["a\r", "\nb", " ", "c\x0bd\r\n"]
    let pieces := ["a", "b", "c", "d"]
    ∃ w', World.bare.saveLines path lines = (.ok (), w') ∧
      (∀ l d, w'.locate path ≠ .ok (.device l d)) ∧ ¬ w'.ForbidsReading path ∧
      w'.loadLines path = .ok (pieces, []) ∧
      w'.loadLines path ≠ .ok (lines, []) ∧
      ∃ w'', World.bare.saveLines path pieces = (.ok (), w'') ∧
        w''.loadLines path = .ok (pieces, []) := by
  intro path lines pieces
  obtain ⟨w', data, hsave, hfile, hreadable⟩ := World.saveLines_bare lines
  have hplace : ∀ l d, w'.locate path ≠ .ok (.device l d) := by simp [path, hfile]
  obtain ⟨hload, -⟩ := saved_lines_read_back World.bare w' path lines hsave hplace hreadable
  have hpieces :
      (lines.flatMap fun line => (splitLines line).filter (!isBlankLine ·)) = pieces := by
    decide
  rw [hpieces] at hload
  have hdiffer : pieces ≠ lines := by decide
  obtain ⟨w'', data'', hagain, hfile'', hreadable''⟩ := World.saveLines_bare pieces
  have hplace'' : ∀ l d, w''.locate path ≠ .ok (.device l d) := by simp [path, hfile'']
  obtain ⟨-, -, hsame⟩ :=
    saved_lines_read_back World.bare w'' path pieces hagain hplace'' hreadable''
  refine ⟨w', hsave, hplace, hreadable, hload, ?_, w'', hagain, hsame w' path [] hload⟩
  simpa [hload] using hdiffer

/-- A device takes lines and holds none of them. -/
theorem saved_lines_lost_on_device :
    ¬ ∀ (w w' : World) (path : Path) (lines : List String),
      w.saveLines path lines = (.ok (), w') → w'.loadLines path =
        .ok (lines.flatMap fun line => (splitLines line).filter (!isBlankLine ·), []) := by
  intro h
  let w : World := .ofEntries [(["dev"], .usualFolder), (["dev", "null"], .device .null)]
  have hsave : w.saveLines ⟨.root, ["dev", "null"]⟩ ["a"] = (.ok (), w) := by cbv
  have hload : w.loadLines ⟨.root, ["dev", "null"]⟩ = .ok ([], []) := by cbv
  have hlines := hload.symm.trans (h w w _ ["a"] hsave)
  have hnone : [] = ["a"].flatMap fun line => (splitLines line).filter (!isBlankLine ·) :=
    (Prod.mk.inj (Except.ok.inj hlines)).1
  revert hnone
  decide

end CommandShell
