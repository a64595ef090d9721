import CommandShell.Programs.Bytes
import CommandShell.Text.Quoted
import Mathlib.Algebra.Ring.Nat
import Mathlib.Data.List.Basic
import Mathlib.Tactic.Lemma

/-!
# What is between quotes

A quoted text says which text it is. The quote in front tells which quotes are escaped, and how a
character is written shows which it is, whatever stands behind it. No line feed is ever written, so
a quoted text never breaks a line.
-/
namespace CommandShell.Text

/-! ## Digits -/

def hexNumber (digits : List Char) : Nat := digits.foldl (fun n c => 16 * n + Bytes.hexValue c) 0

lemma hexValue_digitChar {d : Nat} (h : d < 16) : Bytes.hexValue (Nat.digitChar d) = d := by
  have hall : ∀ d : Fin 16, Bytes.hexValue (Nat.digitChar d) = d := by decide
  exact hall ⟨d, h⟩

lemma length_hexDigits (width n : Nat) : (hexDigits width n).length = width := by
  induction width generalizing n with
  | zero => rfl
  | succ width ih => simp [hexDigits, ih]

lemma hexNumber_hexDigits (width n : Nat) : hexNumber (hexDigits width n) = n % 16 ^ width := by
  induction width generalizing n with
  | zero => simp [hexDigits, hexNumber, Nat.mod_one]
  | succ width ih =>
    have hdigit := hexValue_digitChar (Nat.mod_lt n (by decide : 0 < 16))
    rw [hexDigits, hexNumber, List.foldl_append, ← hexNumber, ih, Nat.pow_succ',
      Nat.mod_mul, List.foldl_cons, List.foldl_nil, hdigit, Nat.add_comm]

lemma ne_feed_of_mem_hexDigits {width n : Nat} {c : Char} (h : c ∈ hexDigits width n) :
    c ≠ '\n' := by
  induction width generalizing n with
  | zero => cases h
  | succ width ih =>
    rw [hexDigits, List.mem_append, List.mem_singleton] at h
    obtain h | rfl := h
    · exact ih h
    · have hall : ∀ d : Fin 16, Nat.digitChar d ≠ '\n' := by decide
      exact hall ⟨n % 16, Nat.mod_lt n (by decide)⟩

/-! ## Escapes -/

/-- The character that the beginning of some written characters stands for. -/
def unescaped : List Char → Char
  | '\\' :: 'n' :: _ => '\n'
  | '\\' :: 'r' :: _ => '\r'
  | '\\' :: 't' :: _ => '\t'
  | '\\' :: 'x' :: rest => Char.ofNat (hexNumber (rest.take 2))
  | '\\' :: 'u' :: rest => Char.ofNat (hexNumber (rest.take 4))
  | '\\' :: 'U' :: rest => Char.ofNat (hexNumber (rest.take 8))
  | '\\' :: c :: _ => c
  | c :: _ => c
  | [] => default

lemma hexNumber_take {width n : Nat} (h : n < 16 ^ width) (rest : List Char) :
    hexNumber ((hexDigits width n ++ rest).take width) = n := by
  have htake : (hexDigits width n ++ rest).take width = hexDigits width n :=
    List.take_left' (length_hexDigits width n)
  rw [htake, hexNumber_hexDigits, Nat.mod_eq_of_lt h]

lemma unescaped_escapeCode (c : Char) (rest : List Char) :
    unescaped (escapeCode c.toNat ++ rest) = c := by
  have hbound : c.toNat < 16 ^ 8 := by
    have hvalid := c.valid
    simp only [UInt32.isValidChar, Nat.isValidChar] at hvalid
    simp only [Char.toNat]
    omega
  unfold escapeCode
  split
  next hshort =>
    have htwo : c.toNat < 16 ^ 2 := hshort
    simp only [List.cons_append, unescaped, hexNumber_take htwo, Char.ofNat_toNat]
  next =>
    split
    next hshort =>
      have hfour : c.toNat < 16 ^ 4 := hshort
      simp only [List.cons_append, unescaped, hexNumber_take hfour, Char.ofNat_toNat]
    next => simp only [List.cons_append, unescaped, hexNumber_take hbound, Char.ofNat_toNat]

section
variable {quote : Char} (hquote : quote = '\'' ∨ quote = '"')
include hquote

/-- A character is known by how it is written, whatever stands behind it. -/
lemma unescaped_escapeChar (c : Char) (rest : List Char) :
    unescaped (escapeChar quote c ++ rest) = c := by
  unfold escapeChar
  split
  next hescaped =>
    obtain rfl | rfl := hescaped
    · obtain rfl | rfl := hquote <;> rfl
    · rfl
  next hplain =>
    push Not at hplain
    split
    next hfeed => exact hfeed.symm
    split
    next hreturn => exact hreturn.symm
    split
    next htab => exact htab.symm
    split
    next =>
      unfold unescaped
      split <;> simp_all
    next => exact unescaped_escapeCode c rest

lemma ne_feed_of_mem_escapeChar {c d : Char} (h : d ∈ escapeChar quote c) : d ≠ '\n' := by
  have hcode : d ∈ escapeCode c.toNat → d ≠ '\n' := by
    intro hmem
    unfold escapeCode at hmem
    split_ifs at hmem
    all_goals
      simp only [List.mem_cons] at hmem
      obtain rfl | rfl | hdigit := hmem
      · decide
      · decide
      · exact ne_feed_of_mem_hexDigits hdigit
  unfold escapeChar at h
  split_ifs at h with hescaped hfeed hreturn htab hprints
  · obtain rfl | rfl : d = '\\' ∨ d = c := by simpa using h
    · decide
    · obtain rfl | rfl := hescaped
      · obtain rfl | rfl := hquote <;> decide
      · decide
  · obtain rfl | rfl : d = '\\' ∨ d = 'n' := by simpa using h
    all_goals decide
  · obtain rfl | rfl : d = '\\' ∨ d = 'r' := by simpa using h
    all_goals decide
  · obtain rfl | rfl : d = '\\' ∨ d = 't' := by simpa using h
    all_goals decide
  · obtain rfl : d = c := by simpa using h
    exact hfeed
  · exact hcode h

lemma flatMap_escapeChar_inj {cs ds : List Char}
    (h : cs.flatMap (escapeChar quote) = ds.flatMap (escapeChar quote)) : cs = ds := by
  have hne (c : Char) : escapeChar quote c ≠ [] := by
    unfold escapeChar escapeCode
    split_ifs <;> simp
  induction cs generalizing ds with
  | nil =>
    cases ds with
    | nil => rfl
    | cons d ds => simp [hne] at h
  | cons c cs ih =>
    cases ds with
    | nil => simp [hne] at h
    | cons d ds =>
      rw [List.flatMap_cons, List.flatMap_cons] at h
      obtain rfl : c = d := by
        rw [← unescaped_escapeChar hquote c, h, unescaped_escapeChar hquote]
      rw [ih (List.append_cancel_left h)]

end

/-! ## Quoted texts -/

lemma quoteFor_eq (cs : List Char) : quoteFor cs = '\'' ∨ quoteFor cs = '"' := by
  unfold quoteFor
  split <;> simp

/-- Two texts that are quoted alike are one. -/
theorem quotedList_inj {cs ds : List Char} (h : quotedList cs = quotedList ds) : cs = ds := by
  rw [quotedList, quotedList, List.cons_append, List.cons_append] at h
  obtain ⟨hquote, hrest⟩ := List.cons.inj h
  rw [hquote] at hrest
  exact flatMap_escapeChar_inj (quoteFor_eq ds) (List.append_cancel_right hrest)

/-- A quoted text stays on its line. -/
theorem ne_feed_of_mem_quotedList {cs : List Char} {c : Char} (h : c ∈ quotedList cs) :
    c ≠ '\n' := by
  have hquote : quoteFor cs ≠ '\n' := by
    obtain hsingle | hdouble := quoteFor_eq cs
    · simp [hsingle]
    · simp [hdouble]
  simp only [quotedList, List.cons_append, List.mem_cons, List.mem_append, List.mem_flatMap,
    List.not_mem_nil, or_false] at h
  obtain rfl | ⟨d, -, hwritten⟩ | rfl := h
  · exact hquote
  · exact ne_feed_of_mem_escapeChar (quoteFor_eq cs) hwritten
  · exact hquote

end CommandShell.Text
