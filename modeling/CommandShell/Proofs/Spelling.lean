import CommandShell.Path
import Mathlib.Data.List.Basic
import Mathlib.Tactic.Lemma

/-!
# Spellings of paths

The text of a path is one of its spellings: read again it gives the same path. The slashes in front
are those of the anchor, and the names that follow are cut apart where they were joined.
-/
namespace CommandShell

namespace Text

lemma cut_intercalate {p : Char → Bool} {c : Char} (hc : p c = true) {pieces : List (List Char)}
    (hne : pieces ≠ []) (h : ∀ piece ∈ pieces, ∀ d ∈ piece, p d = false) :
    cut p ([c].intercalate pieces) = pieces := by
  induction pieces with
  | nil => exact absurd rfl hne
  | cons piece rest ih =>
    cases rest with
    | nil => rw [List.intercalate_singleton, cut_eq_singleton (h piece List.mem_cons_self)]
    | cons second rest =>
      rw [List.intercalate_cons_cons, List.append_assoc, List.singleton_append,
        cut_append hc, cut_eq_singleton (h piece List.mem_cons_self),
        ih (List.cons_ne_nil _ _) fun q hq => h q (List.mem_cons_of_mem _ hq),
        List.singleton_append]

end Text

def Anchor.slashes : Anchor → Nat
  | .here => 0
  | .root => 1
  | .doubleRoot => 2

namespace Path
open Text

/-- What can stand between two slashes and is kept. -/
def IsName (name : String) : Prop := isPart name = true ∧ ∀ c ∈ name.toList, isSlash c = false

/-- All names of a path are such as a spelling can give. -/
def IsNormal (p : Path) : Prop := ∀ name ∈ p.parts, IsName name

lemma ofString_isNormal (s : String) : (ofString s).IsNormal := by
  intro name hname
  obtain ⟨hpiece, hpart⟩ := List.mem_filter.1 hname
  obtain ⟨piece, hcut, rfl⟩ := List.mem_map.1 hpiece
  exact ⟨hpart, by simpa using not_of_mem_cut hcut⟩

lemma Anchor.toList_text (a : Anchor) : (Anchor.text a).toList = List.replicate a.slashes '/' := by
  cases a <;> decide

/-- The names of a path with slashes between them. -/
def joined (names : List String) : List Char := ['/'].intercalate (names.map String.toList)

section
variable {names : List String} (h : ∀ name ∈ names, IsName name)
include h

lemma takeWhile_joined : (joined names).takeWhile isSlash = [] := by
  cases names with
  | nil => rfl
  | cons name rest =>
    obtain ⟨hpart, hslash⟩ := h name List.mem_cons_self
    obtain ⟨c, cs, hcs⟩ : ∃ c cs, name.toList = c :: cs := by
      refine List.exists_cons_of_ne_nil fun hnil => ?_
      have hempty : name = "" := String.toList_inj.1 hnil
      simp [hempty, isPart] at hpart
    have hc : isSlash c = false := hslash c (by simp [hcs])
    cases rest <;> simp [joined, hcs, hc]

/-- The slashes in front of a text are those of the anchor. -/
lemma anchorOf_replicate (a : Anchor) :
    anchorOf (List.replicate a.slashes '/' ++ joined names) = a := by
  have htake : (List.replicate a.slashes '/' ++ joined names).takeWhile isSlash =
      List.replicate a.slashes '/' := by
    rw [List.takeWhile_append_of_pos (by simp [isSlash]), takeWhile_joined h, List.append_nil]
  rw [anchorOf, htake, List.length_replicate]
  cases a <;> rfl

lemma filter_isPart_joined :
    ((cut isSlash (joined names)).map String.ofList).filter isPart = names := by
  cases names with
  | nil => rfl
  | cons name rest =>
    have hslash : ∀ piece ∈ (name :: rest).map String.toList, ∀ c ∈ piece, isSlash c = false := by
      intro piece hpiece
      obtain ⟨other, hother, rfl⟩ := List.mem_map.1 hpiece
      exact (h other hother).2
    have hcut : cut isSlash (joined (name :: rest)) = (name :: rest).map String.toList :=
      cut_intercalate rfl (by simp) hslash
    have hback : ((name :: rest).map String.toList).map String.ofList = name :: rest := by simp
    rw [hcut, hback, List.filter_eq_self]
    exact fun other hother => (h other hother).1

lemma filter_isPart_replicate (slashes : Nat) :
    ((cut isSlash (List.replicate slashes '/' ++ joined names)).map String.ofList).filter isPart =
      names := by
  induction slashes with
  | zero => exact filter_isPart_joined h
  | succ slashes ih =>
    rw [List.replicate_succ, List.cons_append, cut_cons_of_pos rfl, List.map_cons,
      List.filter_cons_of_neg (by decide), ih]

end

/-- The text of a path is a spelling of it. -/
theorem ofString_text {p : Path} (h : p.IsNormal) : ofString p.text = p := by
  obtain ⟨anchor, names⟩ := p
  by_cases hdot : anchor = .here ∧ names = []
  · obtain ⟨rfl, rfl⟩ := hdot
    decide
  · have htext : (text ⟨anchor, names⟩).toList =
        List.replicate anchor.slashes '/' ++ joined names := by
      simp [text, hdot, Anchor.toList_text, joined]
    rw [ofString, htext, anchorOf_replicate h, filter_isPart_replicate h]

end Path
end CommandShell
