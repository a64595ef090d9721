import CommandShell.Proofs.Storing

/-!
# How many entries a history holds

A history is made of lines, at the start and whenever one is loaded, and lines are added to it. With
room for at least one entry it never holds more than it has room for. With room for none, a line
that is added leaves nothing, but a history that is made of lines keeps them all: the lines from the
last `limit` on are then all of them. So the bound holds exactly if no history is made of any.
-/
namespace CommandShell
open Text

namespace History

/-- What is done with a history. -/
inductive Operation
  | add (line : String)
  | save (path : Path)
  | load (path : Path)

namespace Operation

/-- What an operation makes of the world and of the history. The history stays when it cannot be
saved, and when no other can be loaded. -/
def apply : Operation → World × History → World × History
  | add line, (w, h) => (w, (h.add line).2)
  | save path, (w, h) => ((w.saveLines path h.lines).2, h)
  | load path, (w, h) =>
    match w.loadLines path with
    | .ok (lines, _) => (w, .ofLines lines h.limit)
    | .error _ => (w, h)

/-- The lines that an operation makes a history of. -/
def loaded : Operation → World × History → List String
  | load path, (w, _) =>
    match w.loadLines path with
    | .ok (lines, _) => lines
    | .error _ => []
  | _, _ => []

/-- The worlds and histories at the start and after each operation. -/
def states : World × History → List Operation → List (World × History)
  | s, [] => [s]
  | s, op :: rest => s :: states (op.apply s) rest

/-- The lines that each operation makes a history of. -/
def loads : World × History → List Operation → List (List String)
  | _, [] => []
  | s, op :: rest => op.loaded s :: loads (op.apply s) rest

end Operation

variable {s : World × History} {h : History} {line : String}

/-! ## Room for an entry -/

/-- Whether a history holds no more entries than it has room for. -/
def Fits (h : History) : Prop := (h.lines.length : Int) ≤ h.limit

lemma fits_trimmed (hlimit : 0 ≤ h.limit) : h.trimmed.Fits := by
  unfold Fits trimmed
  split
  next hlong =>
    have hleft : ((h.lines.drop (h.lines.length - h.limit).toNat).length : Int) ≤ h.limit := by
      rw [List.length_drop]
      omega
    exact hleft
  next hshort => exact not_lt.1 hshort

/-- Whatever there was before, a line that is recorded leaves no more than there is room for. -/
lemma fits_of_recorded (hlimit : 0 ≤ h.limit) (hadd : (h.add line).1 = true) :
    (h.add line).2.Fits := by
  obtain ⟨hsame, -⟩ | ⟨haccepted, -⟩ := add_cases h line
  · rw [hsame] at hadd
    cases hadd
  · rw [haccepted]
    exact fits_trimmed hlimit

lemma Fits.add (hfits : h.Fits) (hlimit : 0 ≤ h.limit) (line : String) : (h.add line).2.Fits := by
  cases hadd : (h.add line).1 with
  | true => exact fits_of_recorded hlimit hadd
  | false =>
    rw [add_of_rejected hadd]
    exact hfits

lemma Fits.apply (hfits : s.2.Fits) (hlimit : 0 < s.2.limit) (op : Operation) :
    (op.apply s).2.Fits := by
  obtain ⟨w, h⟩ := s
  cases op with
  | add line => exact hfits.add hlimit.le line
  | save path => exact hfits
  | load path =>
    rw [Operation.apply]
    split
    next lines _ _ => exact length_ofLines_le hlimit lines
    · exact hfits

lemma apply_limit (op : Operation) (s : World × History) : (op.apply s).2.limit = s.2.limit := by
  obtain ⟨w, h⟩ := s
  cases op with
  | add line => exact add_limit h line
  | save path => rfl
  | load path =>
    rw [Operation.apply]
    split <;> rfl

lemma states_limit (s : World × History) (ops : List Operation) :
    ∀ t ∈ Operation.states s ops, t.2.limit = s.2.limit := by
  induction ops generalizing s with
  | nil => simp [Operation.states]
  | cons op rest ih =>
    intro t ht
    obtain rfl | hlater := List.mem_cons.1 ht
    · rfl
    · exact (ih _ t hlater).trans (apply_limit op s)

lemma Fits.states (hfits : s.2.Fits) (hlimit : 0 < s.2.limit) (ops : List Operation) :
    ∀ t ∈ Operation.states s ops, t.2.Fits := by
  induction ops generalizing s with
  | nil => simpa [Operation.states] using hfits
  | cons op rest ih =>
    have hnext : 0 < (op.apply s).2.limit := by rwa [apply_limit]
    intro t ht
    obtain rfl | hlater := List.mem_cons.1 ht
    · exact hfits
    · exact ih (hfits.apply hlimit op) hnext t hlater

/-! ## Room for none -/

lemma fits_iff_of_no_room (hlimit : h.limit = 0) : h.Fits ↔ h.lines = [] := by
  rw [Fits, hlimit, ← List.length_eq_zero_iff]
  omega

/-- Without room for an entry nothing stays nothing exactly if no lines are loaded. -/
lemma apply_lines_of_no_room (hlimit : s.2.limit = 0) (hlines : s.2.lines = [])
    (op : Operation) : (op.apply s).2.lines = [] ↔ op.loaded s = [] := by
  obtain ⟨w, h⟩ := s
  cases op with
  | add line =>
    have hzero : (h.add line).2.limit = 0 := (add_limit h line).trans hlimit
    have hfits : (h.add line).2.Fits :=
      ((fits_iff_of_no_room hlimit).2 hlines).add (le_of_eq hlimit.symm) line
    exact iff_of_true ((fits_iff_of_no_room hzero).1 hfits) rfl
  | save path => exact iff_of_true hlines rfl
  | load path =>
    have hzero : h.limit = 0 := hlimit
    rw [Operation.apply, Operation.loaded]
    split
    -- The lines from the last none on are all lines.
    next lines _ _ =>
      have hall : (ofLines lines 0).lines = lines := rfl
      rw [hzero, hall]
    · exact iff_of_true hlines rfl

lemma states_of_no_room (hlimit : s.2.limit = 0) (ops : List Operation) :
    (∀ t ∈ Operation.states s ops, t.2.lines = []) ↔
      s.2.lines = [] ∧ ∀ lines ∈ Operation.loads s ops, lines = [] := by
  induction ops generalizing s with
  | nil => simp [Operation.states, Operation.loads]
  | cons op rest ih =>
    have hnext : (op.apply s).2.limit = 0 := (apply_limit op s).trans hlimit
    rw [Operation.states, Operation.loads, List.forall_mem_cons, List.forall_mem_cons, ih hnext]
    refine and_congr_right fun hlines => ?_
    rw [apply_lines_of_no_room hlimit hlines op]

end History

open History in
/-- A history with room for `m` entries never holds more, at the start and after each operation,
exactly if there is room for at least one or neither at the start nor later a history is made of any
lines. A line that is recorded never leaves more. -/
theorem capacity_kept_iff (lines : List String) (m : ℕ) (w : World) (ops : List Operation) :
    let states := Operation.states (w, .ofLines lines m) ops
    ((∀ s ∈ states, s.2.lines.length ≤ m) ↔
      0 < m ∨ lines = [] ∧ ∀ loaded ∈ Operation.loads (w, .ofLines lines m) ops, loaded = []) ∧
    ∀ s ∈ states, ∀ line, (s.2.add line).1 = true → (s.2.add line).2.lines.length ≤ m := by
  intro states
  have hlimit : ∀ s ∈ states, s.2.limit = m := states_limit _ ops
  have hfits : ∀ s ∈ states, s.2.Fits ↔ s.2.lines.length ≤ m := by
    intro s hs
    rw [Fits, hlimit s hs, Nat.cast_le]
  refine ⟨?_, fun s hs line hadd => ?_⟩
  · obtain rfl | hm := Nat.eq_zero_or_pos m
    · have hnone := states_of_no_room (s := (w, .ofLines lines (0 : ℕ))) rfl ops
      have hempty : (∀ s ∈ states, s.2.lines.length ≤ 0) ↔ ∀ s ∈ states, s.2.lines = [] := by
        simp
      rw [hempty, hnone]
      simp [History.ofLines, lastLines]
    · have hpos : (0 : Int) < m := by omega
      have hstart : (ofLines lines m).Fits := length_ofLines_le hpos lines
      have hall := hstart.states (s := (w, .ofLines lines m)) hpos ops
      exact iff_of_true (fun s hs => (hfits s hs).1 (hall s hs)) (.inl hm)
  · have hnonneg : 0 ≤ s.2.limit := by
      rw [hlimit s hs]
      omega
    have hkept := fits_of_recorded hnonneg hadd
    rw [Fits, add_limit, hlimit s hs] at hkept
    omega

/-- Of three lines in a file two have room. -/
theorem capacity_kept_iff_of_two :
    let path : Path := ⟨.root, ["h"]⟩
    let w := World.ofEntries [(["h"], .file ⟨"x\ny\nz\n".toByteArray, 0o644, 0⟩)]
    let states := History.Operation.states (w, .ofLines ["a", "b", "c"] (2 : ℕ))
      [.add "d", .load path, .add "y"]
    (∀ s ∈ states, s.2.lines.length ≤ 2) ∧
      states.map (·.2.lines) = [["b", "c"], ["c", "d"], ["y", "z"], ["z", "y"]] := by
  intro path w states
  refine ⟨(capacity_kept_iff ["a", "b", "c"] 2 w _).1.2 (.inl (by decide)), ?_⟩
  have hload : w.loadLines path = .ok (["x", "y", "z"], []) := by cbv
  have hfirst : ((History.ofLines ["a", "b", "c"] (2 : ℕ)).add "d").2 = ⟨["c", "d"], 2⟩ := by decide
  have hlast : ((History.ofLines ["x", "y", "z"] 2).add "y").2 = ⟨["z", "y"], 2⟩ := by decide
  simp only [states, History.Operation.states, History.Operation.apply, hfirst, hload, hlast]
  decide

/-- A history that has room for no entry is made with one. -/
theorem capacity_exceeded_without_room :
    ¬ ∀ (lines : List String) (m : ℕ) (w : World) (ops : List History.Operation),
      ∀ s ∈ History.Operation.states (w, .ofLines lines m) ops, s.2.lines.length ≤ m := by
  intro h
  have hstart := h ["a"] 0 World.bare [] _ List.mem_cons_self
  revert hstart
  decide

end CommandShell
