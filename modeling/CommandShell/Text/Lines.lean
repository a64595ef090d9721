import CommandShell.Text.Blank

/-!
# Lines of a text

A text is read with a line feed in the place of every carriage return, with or without a line feed
behind it, and is then cut into lines at more boundaries than these two. A carriage return and the
line feed behind it are one boundary, and a boundary at the end begins no further line. Whoever
leaves blank lines out need not look at that: the lines that are left are the pieces between all
boundaries, each taken for itself.
-/
namespace CommandShell.Text

/-- Line feed, vertical tab, form feed, carriage return, the file, group and record separators,
next line, and the line and paragraph separators. -/
def isBoundary (c : Char) : Bool :=
  let n := c.toNat
  (0x0A ≤ n && n ≤ 0x0D) || (0x1C ≤ n && n ≤ 0x1E) || n == 0x85 || n == 0x2028 || n == 0x2029

/-- The characters of a text that stands behind `before`, without the line feeds that only complete
a carriage return. -/
def unpairedAfter (before : Char) (cs : List Char) : List Char :=
  ((cs.zip (before :: cs)).filter fun e => ¬ (e.1 = '\n' ∧ e.2 = '\r')).map Prod.fst

/-- Each carriage return that has a line feed behind it stands for both. -/
def unpaired (cs : List Char) : List Char := unpairedAfter ' ' cs

/-- The text in which only line feeds end lines. -/
def feedsOnly (s : String) : String :=
  String.ofList ((unpaired s.toList).map fun c => if c = '\r' then '\n' else c)

def splitLines (s : String) : List String :=
  let pieces := cut isBoundary (unpaired s.toList)
  (if pieces.getLast? = some [] then pieces.dropLast else pieces).map String.ofList

/-- The pieces of a text between boundaries that are not blank. -/
def filledLines (s : String) : List String :=
  ((cut isBoundary s.toList).map String.ofList).filter (!isBlankLine ·)

def unlines (lines : List String) : String := String.join (lines.map (· ++ "\n"))

@[simp] theorem isBoundary_feed : isBoundary '\n' = true := by decide

@[simp] theorem isBoundary_return : isBoundary '\r' = true := by decide

theorem unlines_append (lines more : List String) :
    unlines (lines ++ more) = unlines lines ++ unlines more := by
  simp [unlines]

/-- No boundary stands inside a line. -/
theorem not_isBoundary_of_mem_filledLines {s line : String} (h : line ∈ filledLines s) :
    ∀ c ∈ line.toList, isBoundary c = false := by
  obtain ⟨piece, hpiece, rfl⟩ := List.mem_map.1 (List.mem_filter.1 h).1
  simpa using not_of_mem_cut hpiece

theorem isBlankLine_of_mem_filledLines {s line : String} (h : line ∈ filledLines s) :
    isBlankLine line = false := by
  simpa using (List.mem_filter.1 h).2

/-! ## Lines without the blank ones -/

/-- A line feed behind a carriage return falls away. -/
theorem unpairedAfter_cons (before c : Char) (cs : List Char) :
    unpairedAfter before (c :: cs) =
      if c = '\n' ∧ before = '\r' then unpairedAfter c cs else c :: unpairedAfter c cs := by
  rw [unpairedAfter, List.zip_cons_cons, List.filter_cons]
  by_cases h : c = '\n' ∧ before = '\r'
  · simp [h, unpairedAfter]
  · simp only [h, not_false_eq_true, decide_true, if_true, if_false, List.map_cons, unpairedAfter]

/-- The characters of the pieces between boundaries that are not blank. -/
def filledPieces (cs : List Char) : List (List Char) := (cut isBoundary cs).filter (!·.all isBlank)

theorem filter_map_ofList (pieces : List (List Char)) :
    (pieces.map String.ofList).filter (!isBlankLine ·) =
      (pieces.filter (!·.all isBlank)).map String.ofList := by
  rw [List.filter_map]
  congr 2
  funext piece
  simp [isBlankLine]

theorem filledLines_eq (s : String) : filledLines s = (filledPieces s.toList).map String.ofList :=
  filter_map_ofList _

/-- A boundary ends the piece in front of it, and what is behind it is cut for itself. -/
theorem filledPieces_append {front : List Char} {c : Char}
    (hfront : ∀ d ∈ front, isBoundary d = false) (hc : isBoundary c = true) (rest : List Char) :
    filledPieces (front ++ c :: rest) =
      [front].filter (!·.all isBlank) ++ filledPieces rest := by
  rw [filledPieces, cut_append hc, cut_eq_singleton hfront, List.filter_append, filledPieces]

/-- A line feed that completes a carriage return ends an empty piece, which is blank. The induction
carries along the piece that has begun; behind a carriage return none has. -/
theorem filledPieces_unpairedAfter {before : Char} {front : List Char} (cs : List Char)
    (hfront : ∀ d ∈ front, isBoundary d = false) (hbefore : before = '\r' → front = []) :
    filledPieces (front ++ unpairedAfter before cs) = filledPieces (front ++ cs) := by
  induction cs generalizing before front with
  | nil => rfl
  | cons c cs ih =>
    have hnone : ∀ d ∈ ([] : List Char), isBoundary d = false := by simp
    rw [unpairedAfter_cons]
    split
    next hpair =>
      -- The piece that the line feed ends has not begun.
      obtain rfl : front = [] := hbefore hpair.2
      have hc : isBoundary c = true := by rw [hpair.1, isBoundary_feed]
      rw [ih hnone fun _ => rfl, filledPieces_append hnone hc]
      rfl
    · cases hc : isBoundary c with
      | true =>
        have hrest : filledPieces (unpairedAfter c cs) = filledPieces cs := ih hnone fun _ => rfl
        rw [filledPieces_append hfront hc, filledPieces_append hfront hc]
        rw [hrest]
      | false =>
        have hlonger : ∀ d ∈ front ++ [c], isBoundary d = false := by
          intro d hd
          rcases List.mem_append.1 hd with hd | hd
          · exact hfront d hd
          · rwa [List.mem_singleton.1 hd]
        have hreturn : c = '\r' → front ++ [c] = [] := by
          rintro rfl
          simp at hc
        simpa using ih hlonger hreturn

theorem filledPieces_unpaired (cs : List Char) : filledPieces (unpaired cs) = filledPieces cs := by
  have hnone : ∀ d ∈ ([] : List Char), isBoundary d = false := by simp
  exact filledPieces_unpairedAfter cs hnone fun _ => rfl

/-- An empty piece at the end is blank. -/
theorem filter_dropLast {pieces : List (List Char)} (h : pieces.getLast? = some []) :
    pieces.dropLast.filter (!·.all isBlank) = pieces.filter (!·.all isBlank) := by
  obtain ⟨front, rfl⟩ := List.getLast?_eq_some_iff.1 h
  simp

/-- The lines that are not blank are the pieces that are not. -/
theorem filter_splitLines (s : String) :
    (splitLines s).filter (!isBlankLine ·) = filledLines s := by
  rw [filledLines_eq, ← filledPieces_unpaired, splitLines, filter_map_ofList, filledPieces]
  split
  next h => rw [filter_dropLast h]
  · rfl

example : splitLines "a\r\n\rb\n" = ["a", "", "b"] := by decide

/-- Only line feeds as ends of lines cut a text like all ends of lines do. -/
theorem cut_replaceReturns (cs : List Char) :
    cut isBoundary (cs.map fun c => if c = '\r' then '\n' else c) = cut isBoundary cs := by
  induction cs with
  | nil => rfl
  | cons c cs ih =>
    rw [List.map_cons, cut_cons, cut_cons, ih]
    by_cases hc : c = '\r'
    · simp [cutStep, hc]
    · rw [if_neg hc]

theorem filledLines_feedsOnly (s : String) : filledLines (feedsOnly s) = filledLines s := by
  rw [filledLines_eq, filledLines_eq, ← filledPieces_unpaired s.toList, feedsOnly,
    String.toList_ofList, filledPieces, cut_replaceReturns, filledPieces]

end CommandShell.Text
