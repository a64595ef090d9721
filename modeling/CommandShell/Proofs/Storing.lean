import Mathlib
import CommandShell.Proofs.Growth
import CommandShell.Proofs.Recording

/-!
# What a stored history reads back as

Lines are stored with a line feed after each and read back cut at every boundary, blank pieces left
out. So a line comes back whole exactly if it is not blank and no boundary stands inside it. The
entries of a history are not blank, but boundaries other than the line feed can stand in them.
-/
namespace CommandShell
open Text

namespace Text

lemma filledLines_line (line rest : String) :
    filledLines (line ++ "\n" ++ rest) = filledLines line ++ filledLines rest := by
  have hlist : (line ++ "\n" ++ rest).toList = line.toList ++ '\n' :: rest.toList := by simp
  rw [filledLines, hlist, cut_append isBoundary_feed, List.map_append, List.filter_append]
  rfl

lemma unlines_cons (line : String) (lines : List String) :
    unlines (line :: lines) = line ++ "\n" ++ unlines lines := by
  simp [unlines]

lemma filledLines_unlines (lines : List String) :
    filledLines (unlines lines) = lines.flatMap filledLines := by
  induction lines with
  | nil => rfl
  | cons line lines ih => rw [unlines_cons, filledLines_line, ih, List.flatMap_cons]

lemma filledLines_eq_singleton {line : String} (hblank : isBlankLine line = false)
    (hline : ∀ c ∈ line.toList, isBoundary c = false) : filledLines line = [line] := by
  have hcut : cut isBoundary line.toList = [line.toList] := cut_eq_singleton hline
  simp [filledLines, hcut, hblank]

lemma whole_of_mem_filledLines {s line : String} (h : line ∈ filledLines s) :
    isBlankLine line = false ∧ ∀ c ∈ line.toList, isBoundary c = false :=
  ⟨isBlankLine_of_mem_filledLines h, not_isBoundary_of_mem_filledLines h⟩

lemma of_mem_flatMap_filledLines {lines : List String} {line : String}
    (h : line ∈ lines.flatMap filledLines) :
    isBlankLine line = false ∧ ∀ c ∈ line.toList, isBoundary c = false := by
  obtain ⟨whole, -, hpiece⟩ := List.mem_flatMap.1 h
  exact whole_of_mem_filledLines hpiece

/-- Lines are read back as they are exactly if none is blank and none has a boundary. -/
lemma flatMap_filledLines_eq_self_iff {lines : List String} :
    lines.flatMap filledLines = lines ↔
      ∀ line ∈ lines, isBlankLine line = false ∧ ∀ c ∈ line.toList, isBoundary c = false := by
  refine ⟨fun h line hline => ?_, fun h => ?_⟩
  · rw [← h] at hline
    exact of_mem_flatMap_filledLines hline
  · have hsingle : ∀ line ∈ lines, filledLines line = [line] := fun line hline =>
      filledLines_eq_singleton (h line hline).1 (h line hline).2
    rw [List.flatMap_def, List.map_congr_left hsingle, ← List.flatMap_def, List.flatMap_singleton']

end Text

namespace World
variable {w w' : World} {path : Path} {lines : List String}

lemma hasNull_of_write {mode : WriteMode} {bytes : ByteArray}
    (h : w.write mode path bytes = (.ok (), w')) : path.hasNull = false := by
  cases hnull : path.hasNull with
  | false => rfl
  | true =>
    rw [write, openToWrite, if_pos hnull] at h
    cases h

/-- Storing lines comes down to writing their text in a world with the folder of the file. -/
lemma write_of_saveLines (h : w.saveLines path lines = (.ok (), w')) :
    (w.ensureFolder path.parent).2.write .replace path (History.text lines).toByteArray =
      (.ok (), w') := by
  unfold saveLines at h
  split at h
  · cases h
  next hfolder => rwa [hfolder]

/-- Lines that are stored under a path that leads to something, no device, are the contents of a
file. -/
lemma locate_of_saveLines {spot : Spot} (hfound : w.locate path = .ok spot) (htaken : spot.IsTaken)
    (hdevice : ¬ spot.IsDevice) (h : w.saveLines path lines = (.ok (), w')) :
    ∃ l data, w'.locate path = .ok (.file l data) ∧
      data.bytes = (History.text lines).toByteArray := by
  have hwrite := write_of_saveLines h
  have hthere := locate_grown (ensureFolder_grown w path.parent) hfound htaken
  obtain ⟨files, rfl, hwritten, hholds⟩ := write_eq_ok hwrite
  have hlocate := locate_renewed hwritten.overwritten hthere
  obtain hfile | ⟨m, d, hother⟩ := hholds
  · exact hfile
  · rw [hlocate] at hother
    cases spot with
    | free l => exact absurd rfl (htaken l)
    | device l d => exact absurd ⟨l, d, rfl⟩ hdevice
    | folder | link => cases hother
    | file l data =>
      obtain ⟨held, -, hrenewed⟩ := Spot.renewed_file (locate_stands hthere) hwritten
      rw [hrenewed] at hother
      cases hother

/-- Lines that have been stored are read back, cut at the boundaries inside them, unless the path
leads to a device or may not be read. -/
lemma loadLines_of_saveLines (h : w.saveLines path lines = (.ok (), w')) :
    (∃ l d, w'.locate path = .ok (.device l d)) ∨ w'.ForbidsReading path ∨
      w'.loadLines path = .ok (lines.flatMap filledLines, []) := by
  have hwrite := write_of_saveLines h
  obtain ⟨files, -, -, hholds⟩ := write_eq_ok hwrite
  obtain hread | hdevice | hforbids := hholds.read (hasNull_of_write hwrite)
  · refine .inr (.inr ?_)
    simp [loadLines, hread, History.ofText_eq_filledLines, History.text, filledLines_unlines]
  · exact .inl hdevice
  · exact .inr (.inl hforbids)

end World

namespace History

def empty : History := .ofLines [] usualLimit

lemma usualLimit_pos : 0 < usualLimit := by decide

lemma addAll_empty_lines (added : List String) :
    (empty.addAll added).lines = lastLines usualLimit (empty.accepted added) :=
  addAll_lines usualLimit_pos (by decide) added

lemma length_addAll_empty_le (added : List String) :
    ((empty.addAll added).lines.length : Int) ≤ usualLimit := by
  rw [addAll_empty_lines]
  exact length_lastLines_le usualLimit_pos _

lemma isBlankLine_of_mem_addAll_empty {added : List String} {entry : String}
    (h : entry ∈ (empty.addAll added).lines) : isBlankLine entry = false := by
  rw [addAll_empty_lines] at h
  exact isBlankLine_of_mem_accepted (mem_of_mem_lastLines h)

/-- Entries that are not too many are the same after reading exactly if none has a boundary. -/
lemma ofLines_filledLines_eq_iff {limit : Int} {entries : List String} (hlimit : 0 < limit)
    (hlength : (entries.length : Int) ≤ limit)
    (hblank : ∀ entry ∈ entries, isBlankLine entry = false) :
    (ofLines (entries.flatMap filledLines) limit).lines = entries ↔
      ∀ entry ∈ entries, ∀ c ∈ entry.toList, isBoundary c = false := by
  rw [ofLines]
  refine ⟨fun hsame entry hentry => ?_, fun hwhole => ?_⟩
  · rw [← hsame] at hentry
    exact (of_mem_flatMap_filledLines (mem_of_mem_lastLines hentry)).2
  · have hlines := flatMap_filledLines_eq_self_iff.2 fun entry hentry =>
      ⟨hblank entry hentry, hwhole entry hentry⟩
    rw [hlines]
    exact lastLines_of_length_le hlimit hlength

end History

/-- What a history has recorded is read back from where it has been stored, cut at the boundaries
inside its entries, unless it was stored on a device or may not be read there. So the history is the
same again exactly if no entry has a boundary. -/
theorem stored_history_reads_back (added : List String) (w w' : World) (path : Path)
    (hsave : w.saveLines path (History.empty.addAll added).lines = (.ok (), w')) :
    (∃ l d, w'.locate path = .ok (.device l d)) ∨ w'.ForbidsReading path ∨
      ∃ lines, w'.loadLines path = .ok (lines, []) ∧
        lines = (History.empty.addAll added).lines.flatMap filledLines ∧
        ((History.ofLines lines History.usualLimit).lines = (History.empty.addAll added).lines ↔
          ∀ entry ∈ (History.empty.addAll added).lines,
            ∀ c ∈ entry.toList, isBoundary c = false) := by
  obtain hdevice | hforbids | hload := World.loadLines_of_saveLines hsave
  · exact .inl hdevice
  · exact .inr (.inl hforbids)
  · have hsame := History.ofLines_filledLines_eq_iff History.usualLimit_pos
      (History.length_addAll_empty_le added) fun _ => History.isBlankLine_of_mem_addAll_empty
    exact .inr (.inr ⟨_, hload, rfl, hsame⟩)

namespace World

/-- A world with nothing in it but the root. -/
def bare : World := .ofEntries []

lemma not_forbidsReading {w : World} (hrules : w.files.rules = .privileged) (path : Path) :
    ¬ w.ForbidsReading path := by
  rintro ⟨l, data, -, hrefuse⟩
  rw [hrules] at hrefuse
  exact hrefuse rfl

/-- Lines that are stored right below the root are in a new file. -/
lemma saveLines_bare (lines : List String) : ∃ w' data,
    bare.saveLines ⟨.root, ["h"]⟩ lines = (.ok (), w') ∧
      w'.locate ⟨.root, ["h"]⟩ = .ok (.file ["h"] data) ∧ ¬ w'.ForbidsReading ⟨.root, ["h"]⟩ :=
  ⟨{ bare with
      files := (FileTree.ofEntries []).create ["h"] (History.text lines).toByteArray 0o666 },
    ⟨(History.text lines).toByteArray, 0o666, 0⟩, by cbv, by cbv, not_forbidsReading rfl _⟩

end World

/-- Lines that were entered with blanks around them are read back without them. -/
theorem stored_history_reads_back_of_blanks :
    let path : Path := ⟨.root, ["h"]⟩
    let entries := (History.empty.addAll ["ls", " x", "ls\t", "a\tb "]).lines
    entries = ["ls", "a\tb"] ∧ ∃ w', World.bare.saveLines path entries = (.ok (), w') ∧
      ∃ lines, w'.loadLines path = .ok (lines, []) ∧
        (History.ofLines lines History.usualLimit).lines = entries := by
  intro path entries
  have hentries : entries = ["ls", "a\tb"] := by decide
  have hwhole : ∀ entry ∈ entries, ∀ c ∈ entry.toList, isBoundary c = false := by
    have hall : (["ls", "a\tb"].all fun entry => entry.toList.all (!isBoundary ·)) = true := by
      decide
    simpa [hentries] using hall
  obtain ⟨w', data, hsave, hfile, hreadable⟩ := World.saveLines_bare entries
  refine ⟨hentries, w', hsave, ?_⟩
  obtain ⟨l, d, hdevice⟩ | hforbids | ⟨lines, hload, -, hsame⟩ :=
    stored_history_reads_back _ World.bare w' path hsave
  · rw [hfile] at hdevice
    cases hdevice
  · exact absurd hforbids hreadable
  · exact ⟨lines, hload, hsame.2 hwhole⟩

/-- A vertical tab stays inside an entry when it is recorded, and divides it when it is read. -/
theorem stored_history_is_divided :
    ¬ ∀ added w w' path lines notes,
      World.saveLines w path (History.empty.addAll added).lines = (.ok (), w') →
        w'.loadLines path = .ok (lines, notes) →
          (History.ofLines lines History.usualLimit).lines =
            (History.empty.addAll added).lines := by
  intro h
  have hentries : (History.empty.addAll ["a\x0bb"]).lines = ["a\x0bb"] := by decide
  obtain ⟨w', data, hsave, hfile, hreadable⟩ := World.saveLines_bare ["a\x0bb"]
  obtain ⟨l, d, hdevice⟩ | hforbids | hload := World.loadLines_of_saveLines hsave
  · rw [hfile] at hdevice
    cases hdevice
  · exact absurd hforbids hreadable
  · have hsame := h ["a\x0bb"] World.bare w' _ _ _ (by rw [hentries, hsave]) hload
    rw [hentries] at hsame
    revert hsame
    decide

end CommandShell
