/-!
# Cutting a text at separators

`cut p` divides a text at every character that satisfies `p` and drops these characters. There is
one piece more than there are separators, so pieces may be empty.
-/
namespace CommandShell.Text

def consPiece (c : Char) : List (List Char) → List (List Char)
  | [] => [[c]]
  | piece :: rest => (c :: piece) :: rest

/-- One step of the cut, from right to left. -/
def cutStep (p : Char → Bool) (c : Char) (pieces : List (List Char)) : List (List Char) :=
  if p c then [] :: pieces else consPiece c pieces

/-- The pieces of a text between the characters that satisfy `p`. -/
def cut (p : Char → Bool) (cs : List Char) : List (List Char) := cs.foldr (cutStep p) [[]]

@[simp] theorem cut_nil (p : Char → Bool) : cut p [] = [[]] := rfl

theorem cut_cons (p : Char → Bool) (c : Char) (cs : List Char) :
    cut p (c :: cs) = cutStep p c (cut p cs) := rfl

theorem cut_cons_of_pos {p : Char → Bool} {c : Char} (h : p c = true) (cs : List Char) :
    cut p (c :: cs) = [] :: cut p cs := by simp [cut_cons, cutStep, h]

theorem cut_cons_of_neg {p : Char → Bool} {c : Char} (h : p c = false) (cs : List Char) :
    cut p (c :: cs) = consPiece c (cut p cs) := by simp [cut_cons, cutStep, h]

theorem cut_ne_nil (p : Char → Bool) (cs : List Char) : cut p cs ≠ [] := by
  cases cs with
  | nil => simp
  | cons c cs =>
    cases h : p c with
    | true => simp [cut_cons_of_pos h]
    | false => cases hc : cut p cs <;> simp [cut_cons_of_neg h, consPiece, hc]

/-- A text without a separator is one piece. -/
theorem cut_eq_singleton {p : Char → Bool} {cs : List Char} (h : ∀ c ∈ cs, p c = false) :
    cut p cs = [cs] := by
  induction cs with
  | nil => rfl
  | cons c cs ih =>
    rw [cut_cons_of_neg (h c List.mem_cons_self), ih fun d hd => h d (List.mem_cons_of_mem _ hd)]
    rfl

/-- A separator divides the pieces into those of what is before and those of what is behind it. -/
theorem cut_append {p : Char → Bool} {c : Char} (h : p c = true) (before behind : List Char) :
    cut p (before ++ c :: behind) = cut p before ++ cut p behind := by
  induction before with
  | nil => exact cut_cons_of_pos h behind
  | cons d before ih =>
    cases hd : p d with
    | true => rw [List.cons_append, cut_cons_of_pos hd, cut_cons_of_pos hd, ih]; rfl
    | false =>
      rw [List.cons_append, cut_cons_of_neg hd, cut_cons_of_neg hd, ih]
      cases hc : cut p before with
      | nil => exact absurd hc (cut_ne_nil p before)
      | cons first rest => rfl

/-- The pieces are parts of the text. -/
theorem sublist_of_mem_cut {p : Char → Bool} {cs piece : List Char} (h : piece ∈ cut p cs) :
    piece.Sublist cs := by
  induction cs generalizing piece with
  | nil => simp_all
  | cons c cs ih =>
    cases hp : p c with
    | true =>
      rw [cut_cons_of_pos hp, List.mem_cons] at h
      obtain rfl | h := h
      · exact List.nil_sublist _
      · exact (ih h).cons c
    | false =>
      rw [cut_cons_of_neg hp] at h
      cases hc : cut p cs with
      | nil => exact absurd hc (cut_ne_nil p cs)
      | cons first rest =>
        rw [hc, consPiece, List.mem_cons] at h
        rw [hc] at ih
        obtain rfl | h := h
        · exact (ih List.mem_cons_self).cons_cons c
        · exact (ih (List.mem_cons_of_mem _ h)).cons c

/-- No piece holds a separator. -/
theorem not_of_mem_cut {p : Char → Bool} {cs piece : List Char} (h : piece ∈ cut p cs) :
    ∀ c ∈ piece, p c = false := by
  induction cs generalizing piece with
  | nil => simp_all
  | cons c cs ih =>
    cases hp : p c with
    | true =>
      rw [cut_cons_of_pos hp, List.mem_cons] at h
      rcases h with rfl | h
      · simp
      · exact ih h
    | false =>
      rw [cut_cons_of_neg hp] at h
      cases hc : cut p cs with
      | nil => exact absurd hc (cut_ne_nil p cs)
      | cons first rest =>
        rw [hc, consPiece, List.mem_cons] at h
        rw [hc] at ih
        rcases h with rfl | h
        · intro d hd
          rcases List.mem_cons.1 hd with rfl | hd
          · exact hp
          · exact ih (List.mem_cons_self ..) d hd
        · exact ih (List.mem_cons_of_mem _ h)

end CommandShell.Text
