import CommandShell.History
import Mathlib.Tactic.Lemma

/-!
# What a history records

The entries of a history with a limit are the newest of all that it has recorded. An entry is a line
without the blanks at its ends, and no entry is blank.
-/
namespace CommandShell
open Text

namespace Text

lemma all_dropWhile (p : Char → Bool) (cs : List Char) : (cs.dropWhile p).all p = cs.all p := by
  induction cs with
  | nil => rfl
  | cons c cs ih => cases hc : p c <;> simp [hc, ih]

@[simp] lemma isBlankLine_trim (s : String) : isBlankLine (trim s) = isBlankLine s := by
  rw [isBlankLine, trim, String.toList_ofList, trimList, List.all_reverse, all_dropWhile,
    List.all_reverse, all_dropWhile, isBlankLine]

end Text

namespace History
variable {h : History} {limit : Int} {line : String} {lines : List String}

/-! ## The newest lines -/

lemma lastLines_of_pos (hlimit : 0 < limit) (lines : List String) :
    lastLines limit lines = lines.drop (lines.length - limit.toNat) := if_pos hlimit

lemma length_lastLines_le (hlimit : 0 < limit) (lines : List String) :
    ((lastLines limit lines).length : Int) ≤ limit := by
  rw [lastLines_of_pos hlimit, List.length_drop]
  omega

lemma length_ofLines_le (hlimit : 0 < limit) (lines : List String) :
    ((ofLines lines limit).lines.length : Int) ≤ limit := length_lastLines_le hlimit lines

lemma mem_of_mem_lastLines (h : line ∈ lastLines limit lines) : line ∈ lines := by
  unfold lastLines at h
  split at h
  · exact List.mem_of_mem_drop h
  · exact List.mem_of_mem_drop h

lemma lastLines_of_length_le (hlimit : 0 < limit) (hlength : (lines.length : Int) ≤ limit) :
    lastLines limit lines = lines := by
  have hzero : lines.length - limit.toNat = 0 := by omega
  rw [lastLines_of_pos hlimit, hzero, List.drop_zero]

lemma lastLines_append (hlimit : 0 < limit) (lines more : List String) :
    lastLines limit (lastLines limit lines ++ more) = lastLines limit (lines ++ more) := by
  simp only [lastLines_of_pos hlimit, List.drop_append, List.length_append, List.length_drop,
    List.drop_drop]
  congr 2 <;> omega

lemma getLast?_lastLines (hlimit : 0 < limit) (lines : List String) :
    (lastLines limit lines).getLast? = lines.getLast? := by
  rw [lastLines_of_pos hlimit, List.getLast?_drop]
  split
  next hnone =>
    have hempty : lines = [] := List.length_eq_zero_iff.1 (by omega)
    rw [hempty, List.getLast?_nil]
  · rfl

lemma getLast?_lastLines_concat (hlimit : 0 < limit) (lines : List String) (line : String) :
    (lastLines limit (lines ++ [line])).getLast? = some line := by
  rw [getLast?_lastLines hlimit, List.getLast?_concat]

lemma trimmed_lines (hlimit : 0 < h.limit) : h.trimmed.lines = lastLines h.limit h.lines := by
  unfold trimmed
  split
  next hlong =>
    have hgone : (h.lines.length - h.limit).toNat = h.lines.length - h.limit.toNat := by omega
    rw [lastLines_of_pos hlimit, hgone]
  · rw [lastLines_of_length_le hlimit (by omega)]

lemma trimmed_limit (h : History) : h.trimmed.limit = h.limit := by
  unfold trimmed
  split <;> rfl

/-! ## One line -/

lemma isRecordable_iff :
    isRecordable line = true ↔ isBlankLine line = false ∧ line.toList.head? ≠ some ' ' := by
  simp [isRecordable]

/-- A line is rejected and leaves everything as it is, or its entry comes behind the others. -/
lemma add_cases (h : History) (line : String) :
    (h.add line = (false, h) ∧
      (isRecordable line = false ∨ h.lines.getLast? = some (trim line))) ∨
    (h.add line = (true, trimmed { h with lines := h.lines ++ [trim line] }) ∧
      isRecordable line = true ∧ h.lines.getLast? ≠ some (trim line)) := by
  unfold add
  split
  next hline => exact .inl ⟨rfl, .inl (by simpa using hline)⟩
  next hline =>
    split
    next hlast => exact .inl ⟨rfl, .inr hlast⟩
    next hlast => exact .inr ⟨rfl, by simpa using hline, hlast⟩

lemma add_limit (h : History) (line : String) : (h.add line).2.limit = h.limit := by
  obtain ⟨hadd, -⟩ | ⟨hadd, -⟩ := add_cases h line
  · rw [hadd]
  · rw [hadd, trimmed_limit]

lemma add_of_rejected (hadd : (h.add line).1 = false) : h.add line = (false, h) := by
  obtain ⟨hsame, -⟩ | ⟨haccepted, -⟩ := add_cases h line
  · exact hsame
  · rw [haccepted] at hadd
    cases hadd

/-- The entry of a line that is recorded comes behind the others, and the oldest make room. -/
lemma add_lines_of_recorded (hlimit : 0 < h.limit) (hadd : (h.add line).1 = true) :
    (h.add line).2.lines = lastLines h.limit (h.lines ++ [trim line]) := by
  obtain ⟨hsame, -⟩ | ⟨haccepted, -⟩ := add_cases h line
  · rw [hsame] at hadd
    cases hadd
  · rw [haccepted]
    exact trimmed_lines hlimit

/-- A line is recorded unless it is not worth it or makes the newest entry again. -/
lemma recorded_iff : (h.add line).1 = true ↔
    isRecordable line = true ∧ h.lines.getLast? ≠ some (trim line) := by
  obtain ⟨hadd, hwhy⟩ | ⟨hadd, hline, hnew⟩ := add_cases h line
  · rw [hadd]
    refine ⟨nofun, fun ⟨hline, hnew⟩ => ?_⟩
    obtain hnot | hold := hwhy
    · rw [hnot] at hline
      cases hline
    · exact absurd hold hnew
  · rw [hadd]
    exact ⟨fun _ => ⟨hline, hnew⟩, fun _ => rfl⟩

lemma add_of_isBlankLine (hblank : isBlankLine line = true) : (h.add line).1 = false := by
  rw [← Bool.not_eq_true, recorded_iff, isRecordable_iff, hblank]
  rintro ⟨⟨hfilled, -⟩, -⟩
  cases hfilled

/-! ## Lines one after the other -/

/-- The entry that a line makes, if it makes one. -/
def entries (h : History) (line : String) : List String :=
  if (h.add line).1 then [trim line] else []

/-- The history after lines, one after the other. -/
def addAll (h : History) (lines : List String) : History :=
  lines.foldl (fun h line => (h.add line).2) h

/-- The entries that lines make, one after the other. -/
def accepted (h : History) : List String → List String
  | [] => []
  | line :: rest => h.entries line ++ (h.add line).2.accepted rest

lemma entries_of_rejected (hadd : (h.add line).1 = false) : h.entries line = [] := by
  simp [entries, hadd]

/-- After a line the history has the newest of its entries and the entry of the line. -/
lemma add_lines (hlimit : 0 < h.limit) (hlength : (h.lines.length : Int) ≤ h.limit)
    (line : String) : (h.add line).2.lines = lastLines h.limit (h.lines ++ h.entries line) := by
  cases hadd : (h.add line).1 with
  | true =>
    have hentry : h.entries line = [trim line] := by simp [entries, hadd]
    rw [add_lines_of_recorded hlimit hadd, hentry]
  | false =>
    rw [add_of_rejected hadd, entries_of_rejected hadd, List.append_nil,
      lastLines_of_length_le hlimit hlength]

lemma addAll_limit (h : History) (added : List String) : (h.addAll added).limit = h.limit := by
  induction added generalizing h with
  | nil => rfl
  | cons line rest ih => exact (ih _).trans (add_limit h line)

lemma addAll_concat (h : History) (lines : List String) (line : String) :
    h.addAll (lines ++ [line]) = ((h.addAll lines).add line).2 := by
  rw [addAll, List.foldl_append]
  rfl

lemma accepted_concat (h : History) (lines : List String) (line : String) :
    h.accepted (lines ++ [line]) = h.accepted lines ++ (h.addAll lines).entries line := by
  induction lines generalizing h with
  | nil => rw [List.nil_append, accepted, accepted, accepted, List.append_nil]; rfl
  | cons first lines ih =>
    rw [List.cons_append, accepted, ih, accepted, List.append_assoc]
    rfl

lemma accepted_concat_of_add (hadd : ((h.addAll lines).add line).1 = true) :
    h.accepted (lines ++ [line]) = h.accepted lines ++ [trim line] := by
  rw [accepted_concat, entries, if_pos hadd]

lemma accepted_concat_of_rejected (hadd : ((h.addAll lines).add line).1 = false) :
    h.accepted (lines ++ [line]) = h.accepted lines := by
  rw [accepted_concat, entries_of_rejected hadd, List.append_nil]

/-- A history has the newest of the entries that it began with and of those that it accepted. -/
lemma addAll_lines (hlimit : 0 < h.limit) (hlength : (h.lines.length : Int) ≤ h.limit)
    (lines : List String) :
    (h.addAll lines).lines = lastLines h.limit (h.lines ++ h.accepted lines) := by
  induction lines generalizing h with
  | nil => rw [accepted, List.append_nil, lastLines_of_length_le hlimit hlength]; rfl
  | cons line lines ih =>
    have hadd := add_lines hlimit hlength line
    have hrest := ih (h := (h.add line).2) (by rwa [add_limit])
      (by rw [add_limit, hadd]; exact length_lastLines_le hlimit _)
    calc (h.addAll (line :: lines)).lines = ((h.add line).2.addAll lines).lines := rfl
      _ = lastLines h.limit (lastLines h.limit (h.lines ++ h.entries line) ++
          (h.add line).2.accepted lines) := by rw [hrest, add_limit, hadd]
      _ = lastLines h.limit (h.lines ++ h.accepted (line :: lines)) := by
        rw [lastLines_append hlimit, List.append_assoc, accepted]

lemma isBlankLine_of_mem_accepted {entry : String} (hentry : entry ∈ h.accepted lines) :
    isBlankLine entry = false := by
  induction lines generalizing h with
  | nil => cases hentry
  | cons line lines ih =>
    rw [accepted, List.mem_append] at hentry
    obtain hline | hrest := hentry
    · cases hblank : isBlankLine line with
      | true => simp [entries_of_rejected (add_of_isBlankLine hblank)] at hline
      | false =>
        unfold entries at hline
        split at hline
        · rw [List.mem_singleton.1 hline, isBlankLine_trim, hblank]
        · cases hline
    · exact ih hrest

end History
end CommandShell
