import CommandShell.Execution
import CommandShell.Proofs.Contents

/-!
# Targets that are tried

Writing a text to targets tries them one after the other, each in the world that those before it
have left. One that is refused costs a diagnostic; if it has been opened before, its file is left
with less than the text. Only a null character in a path keeps the targets behind it from being
tried.
-/
namespace CommandShell

/-- A target that has been tried: whether it could be opened, and what it was refused for. -/
structure Attempt where
  target : Path
  opened : Bool
  refusal : Option SystemError

namespace Attempt

/-- What trying a target leaves in the trace. -/
def action (a : Attempt) : Action := .openTarget a.target a.opened

/-- The diagnostic of a target that has been refused. -/
def diagnostic? (a : Attempt) : Option String := a.refusal.map (unwritable a.target)

end Attempt

/-- Targets are tried one after the other, each in the world that those before it have left. -/
inductive Attempts (mode : WriteMode) (bytes : ByteArray) : World → List Attempt → World → Prop
  | nil (w : World) : Attempts mode bytes w [] w
  | written {target : Path} {attempts : List Attempt} {w w' w'' : World}
      (hwrite : w.write mode target bytes = (.ok (), w'))
      (hrest : Attempts mode bytes w' attempts w'') :
      Attempts mode bytes w (⟨target, true, none⟩ :: attempts) w''
  | refused {target : Path} {error : SystemError} {attempts : List Attempt} {w w' w'' : World}
      (hwrite : w.write mode target bytes = (.error (.system error), w'))
      (hrest : Attempts mode bytes w' attempts w'') :
      Attempts mode bytes w (⟨target, w.opens target, some error⟩ :: attempts) w''

/-- What writing to targets comes to: all of them are tried, or those before one that no host
takes. -/
inductive Writes (mode : WriteMode) (bytes : ByteArray) (r : Run) :
    List Path → Except Escape (List String) × Run → Prop
  | all {attempts : List Attempt} {w : World} (h : Attempts mode bytes r.world attempts w) :
      Writes mode bytes r (attempts.map Attempt.target)
        (.ok (attempts.filterMap Attempt.diagnostic?),
          ⟨w, r.started, r.trace ++ attempts.map Attempt.action⟩)
  | cut {attempts : List Attempt} {w : World} {target : Path}
      (h : Attempts mode bytes r.world attempts w) (hnull : target.hasNull = true)
      (back : List Path) :
      Writes mode bytes r (attempts.map Attempt.target ++ target :: back)
        (.error .nullCharacter,
          ⟨w, r.started, r.trace ++ (attempts.map Attempt.action ++ [.openTarget target false])⟩)

/-! ## One target -/

namespace World
variable {w w' : World} {mode : WriteMode} {p : Path} {bytes : ByteArray}

lemma opens_of_write (h : w.write mode p bytes = (.ok (), w')) : w.opens p = true := by
  obtain ⟨e, -, hwrite⟩ | ⟨spot, sink, hopens, -⟩ := write_cases w mode p bytes
  · cases hwrite.symm.trans h
  · exact hopens

lemma write_of_not_opens (h : w.opens p = false) : (w.write mode p bytes).2 = w := by
  obtain ⟨e, -, hwrite⟩ | ⟨spot, sink, hopens, -⟩ := write_cases w mode p bytes
  · rw [hwrite]
  · rw [h] at hopens
    cases hopens

lemma openToWrite_of_null (hnull : p.hasNull = true) : w.openToWrite p = .error .nullCharacter := by
  rw [openToWrite, if_pos hnull]

lemma write_of_null (hnull : p.hasNull = true) :
    w.write mode p bytes = (.error .nullCharacter, w) := by
  rw [write, openToWrite_of_null hnull]

/-- A path is refused by the host, or it holds a null character. -/
lemma openToWrite_error {e : Escape} (hnull : p.hasNull = false)
    (h : w.openToWrite p = .error e) : ∃ error, e = .system error := by
  unfold openToWrite at h
  simp only [hnull, Bool.false_eq_true, if_false] at h
  split at h
  · exact ⟨_, (Except.error.inj h).symm⟩
  next spot _ =>
    cases hsink : w.sinkAt spot with
    | error fault =>
      simp only [hsink, mapError_error, Except.error.injEq] at h
      exact ⟨_, h.symm⟩
    | ok sink => simp [hsink] at h

/-- What a path without null characters is refused for is an error of the host. -/
lemma write_error {e : Escape} (hnull : p.hasNull = false)
    (h : w.write mode p bytes = (.error e, w')) : ∃ error, e = .system error := by
  unfold write at h
  split at h
  next hopened =>
    cases h
    exact openToWrite_error hnull hopened
  next sink _ =>
    cases hfill : (w.fill mode bytes sink).1 with
    | error error =>
      simp only [hfill, mapError_error, Prod.mk.injEq, Except.error.injEq] at h
      exact ⟨error, h.1.symm⟩
    | ok => simp [hfill] at h

end World

/-! ## All targets -/

section
variable {mode : WriteMode} {bytes : ByteArray} {r : Run} {target : Path} {rest : List Path}
  {w : World} {result : Except Escape (List String)} {r' : Run}

lemma Writes.behind_written (hwrite : r.world.write mode target bytes = (.ok (), w))
    (h : Writes mode bytes { r.log (.openTarget target true) with world := w } rest (result, r')) :
    Writes mode bytes r (target :: rest) (result, r') := by
  cases h with
  | all h =>
    have hall := Writes.all (r := r) (.written hwrite h)
    simpa [Attempt.action, Attempt.diagnostic?, List.filterMap_cons] using hall
  | cut h hnull back =>
    have hcut := Writes.cut (r := r) (.written hwrite h) hnull back
    simpa [Attempt.action] using hcut

lemma Writes.behind_refused {error : SystemError}
    (hwrite : r.world.write mode target bytes = (.error (.system error), w))
    (h : Writes mode bytes
      { r.log (.openTarget target (r.world.opens target)) with world := w } rest (result, r')) :
    Writes mode bytes r (target :: rest)
      (result.map (unwritable target error :: ·), r') := by
  cases h with
  | all h =>
    have hall := Writes.all (r := r) (.refused hwrite h)
    simpa [Attempt.action, Attempt.diagnostic?, List.filterMap_cons, Except.map] using hall
  | cut h hnull back =>
    have hcut := Writes.cut (r := r) (.refused hwrite h) hnull back
    simpa [Attempt.action, Except.map] using hcut

end

/-- Writing tries the targets in order. -/
theorem writeAll_writes (mode : WriteMode) (bytes : ByteArray) (targets : List Path) (r : Run) :
    Writes mode bytes r targets (writeAll mode bytes targets r) := by
  induction targets generalizing r with
  | nil =>
    have hnone : Attempts mode bytes r.world [] r.world := .nil r.world
    simpa [writeAll] using Writes.all hnone
  | cons target rest ih =>
    cases hnull : target.hasNull with
    | true =>
      have hopens : r.world.opens target = false := by
        rw [World.opens, World.openToWrite_of_null hnull]
        rfl
      have hnone : Attempts mode bytes r.world [] r.world := .nil r.world
      simpa [writeAll, World.write_of_null hnull, hopens] using Writes.cut hnone hnull rest
    | false =>
      cases hwrite : r.world.write mode target bytes with
      | mk done w =>
        have hrest := ih { r.log (.openTarget target (r.world.opens target)) with world := w }
        cases done with
        | ok =>
          simp only [writeAll, hwrite]
          rw [World.opens_of_write hwrite] at hrest ⊢
          exact hrest.behind_written hwrite
        | error e =>
          obtain ⟨error, rfl⟩ := World.write_error hnull hwrite
          have hall := hrest.behind_refused hwrite
          simp only [writeAll, hwrite]
          cases hwritten : writeAll mode bytes rest
              { r.log (.openTarget target (r.world.opens target)) with world := w } with
          | mk result r' =>
            rw [hwritten] at hall
            cases result <;> exact hall

/-- All the targets are tried if hosts take their paths. -/
lemma exists_attempts (mode : WriteMode) (bytes : ByteArray) (targets : List Path)
    (hnull : ∀ target ∈ targets, target.hasNull = false) (r : Run) :
    ∃ attempts w, Attempts mode bytes r.world attempts w ∧
      attempts.map Attempt.target = targets ∧
      writeAll mode bytes targets r = (.ok (attempts.filterMap Attempt.diagnostic?),
        ⟨w, r.started, r.trace ++ attempts.map Attempt.action⟩) := by
  have hwrites := writeAll_writes mode bytes targets r
  generalize writeAll mode bytes targets r = written at hwrites ⊢
  cases hwrites with
  | all h => exact ⟨_, _, h, rfl, rfl⟩
  | cut h hcut =>
    rw [hnull _ (by simp)] at hcut
    cases hcut

/-! ## What targets come to -/

namespace Attempts
variable {mode : WriteMode} {bytes : ByteArray} {w w' w₁ w₂ : World}
  {attempts others : List Attempt}

/-- What targets come to is determined by the world in which the first of them is tried. -/
lemma unique (h : Attempts mode bytes w attempts w₁) (hothers : Attempts mode bytes w others w₂)
    (htargets : attempts.map Attempt.target = others.map Attempt.target) :
    attempts = others ∧ w₁ = w₂ := by
  induction h generalizing others with
  | nil w =>
    cases hothers with
    | nil => exact ⟨rfl, rfl⟩
    | written | refused => cases htargets
  | written hwrite hrest ih | refused hwrite hrest ih =>
    cases hothers with
    | nil => cases htargets
    | written hwrite' hrest' | refused hwrite' hrest' =>
      obtain ⟨rfl, hmore⟩ := List.cons.inj htargets
      cases hwrite.symm.trans hwrite'
      all_goals
        obtain ⟨rfl, rfl⟩ := ih hrest' hmore
        exact ⟨rfl, rfl⟩

lemma eq_of_unopened (h : Attempts mode bytes w attempts w')
    (hnone : ∀ a ∈ attempts, a.opened = false) : w' = w := by
  induction h with
  | nil => rfl
  | written => simp at hnone
  | refused hwrite hrest ih =>
    obtain ⟨hfirst, hmore⟩ := List.forall_mem_cons.1 hnone
    have hsame := congrArg Prod.snd hwrite
    rw [World.write_of_not_opens hfirst] at hsame
    exact (ih hmore).trans hsame.symm

lemma overwritten (h : Attempts mode bytes w attempts w') :
    ∃ files, w' = { w with files } ∧ w.files.Overwritten files := by
  induction h with
  | nil w => exact ⟨w.files, rfl, .refl _⟩
  | @written target _ w _ _ hwrite hrest ih | @refused target _ _ w _ _ hwrite hrest ih =>
    obtain ⟨files, hfirst, hover⟩ := w.write_overwritten mode target bytes
    obtain rfl := (congrArg Prod.snd hwrite).symm.trans hfirst
    obtain ⟨files', rfl, hover'⟩ := ih
    exact ⟨files', rfl, hover.trans hover'⟩

end Attempts
end CommandShell
