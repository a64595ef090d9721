import CommandShell.Text.Cut

/-!
# Blanks, trimming and words

A blank separates words. The words of a line are its pieces between blanks that are not empty, so
no word is empty and none holds a blank.
-/
namespace CommandShell.Text

/-- White space by the Unicode property, with the four ASCII information separators. -/
def isBlank (c : Char) : Bool :=
  let n := c.toNat
  (0x09 ≤ n && n ≤ 0x0D) || (0x1C ≤ n && n ≤ 0x20) || n == 0x85 || n == 0xA0 || n == 0x1680 ||
    (0x2000 ≤ n && n ≤ 0x200A) || n == 0x2028 || n == 0x2029 || n == 0x202F || n == 0x205F ||
    n == 0x3000

/-- The maximal runs of characters that are not blank, from left to right. -/
def runs (cs : List Char) : List (List Char) := (cut isBlank cs).filter (!·.isEmpty)

/-- The characters left when the blanks at both ends fall away. -/
def trimList (cs : List Char) : List Char :=
  ((cs.dropWhile isBlank).reverse.dropWhile isBlank).reverse

def words (s : String) : List String := (runs s.toList).map String.ofList

def trim (s : String) : String := String.ofList (trimList s.toList)

/-- A blank line holds nothing but blanks; the empty line is one. -/
def isBlankLine (s : String) : Bool := s.toList.all isBlank

theorem ne_nil_of_mem_runs {cs run : List Char} (h : run ∈ runs cs) : run ≠ [] := by
  simpa [runs] using (List.mem_filter.1 h).2

theorem runs_eq_nil_iff {cs : List Char} : runs cs = [] ↔ cs.all isBlank = true := by
  induction cs with
  | nil => simp [runs]
  | cons c cs ih =>
    cases hc : isBlank c with
    | true =>
      have hrest : runs (c :: cs) = runs cs := by simp [runs, cut_cons_of_pos hc]
      rw [hrest, ih, List.all_cons, hc, Bool.true_and]
    | false =>
      obtain ⟨piece, rest, hcut⟩ := List.exists_cons_of_ne_nil (cut_ne_nil isBlank cs)
      simp [runs, cut_cons_of_neg hc, hcut, consPiece, hc]

/-- Only a blank line has no words. -/
theorem words_eq_nil_iff {s : String} : words s = [] ↔ isBlankLine s = true := by
  rw [words, List.map_eq_nil_iff, runs_eq_nil_iff, isBlankLine]

theorem ne_empty_of_mem_words {s word : String} (h : word ∈ words s) : word ≠ "" := by
  obtain ⟨run, hrun, rfl⟩ := List.mem_map.1 h
  intro he
  have : (String.ofList run).toList = [] := by rw [he]; rfl
  exact ne_nil_of_mem_runs hrun (by simpa using this)

end CommandShell.Text
