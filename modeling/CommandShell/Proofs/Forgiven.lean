import CommandShell.Proofs.Sourceless

/-!
# Failures that make no difference

A builtin that fails is spoken of, and that is all. Had it come back in order and left the same
world, the same stages would have been sent off, the same text would have been handed over under the
same code, and the same would have been written: only the diagnostics would be others.
-/
namespace CommandShell
open Text

/-! ## Pardoning -/

/-- How a builtin comes back, when to fail is as good as to be done. -/
def HandlerEnd.pardoned : HandlerEnd → HandlerEnd
  | .failed _ => .done
  | ended => ended

/-- An action, when a builtin that fails is as good as done. -/
def Action.pardoned : Action → Action
  | .returned ended => .returned ended.pardoned
  | a => a

/-- Builtins that differ at most in whether they fail and in what they say then. -/
def Handler.Alike (f g : Handler) : Prop :=
  ∀ args w, (f args w).1.pardoned = (g args w).1.pardoned ∧ (f args w).2 = (g args w).2

/-- Registries that differ at most in the failures of their builtins. -/
structure Registry.Alike (reg other : Registry Handler) : Prop where
  aliases : reg.aliases = other.aliases
  builtins : ∀ name, Option.Rel Handler.Alike (reg.builtin? name) (other.builtin? name)

/-- Runs in the same world that differ at most in the failures of builtins in their traces. -/
structure Run.Alike (r s : Run) : Prop where
  world : r.world = s.world
  started : r.started = s.started
  trace : r.trace.map Action.pardoned = s.trace.map Action.pardoned

def Outcome.undiagnosed : Outcome → Except Escape (String × Int)
  | .finished result => .ok (result.stdout, result.exitCode)
  | .left e => .error e

/-- Ends of runs that differ at most in diagnostics and in the failures of builtins. -/
structure EndsAlike (a b : Outcome × Run) : Prop where
  outcome : a.1.undiagnosed = b.1.undiagnosed
  run : a.2.Alike b.2

section
variable {reg other : Registry Handler} {r s : Run}

lemma Registry.Alike.argv (h : reg.Alike other) (name : String) (args : List String) :
    reg.argv name args = other.argv name args := by
  simp only [Registry.argv, expand, alias?, h.aliases]

lemma Registry.Alike.cases (h : reg.Alike other) (name : String) :
    (reg.builtin? name = none ∧ other.builtin? name = none) ∨
      ∃ f g, reg.builtin? name = some f ∧ other.builtin? name = some g ∧ Handler.Alike f g := by
  have hbuiltins := h.builtins name
  revert hbuiltins
  generalize reg.builtin? name = a
  generalize other.builtin? name = b
  intro hbuiltins
  cases hbuiltins with
  | none => exact .inl ⟨rfl, rfl⟩
  | some halike => exact .inr ⟨_, _, rfl, rfl, halike⟩

lemma Registry.Alike.isBuiltin (h : reg.Alike other) (name : String) :
    reg.isBuiltin name = other.isBuiltin name := by
  obtain ⟨hnone, hother⟩ | ⟨f, g, hf, hg, -⟩ := h.cases name
  · simp only [Registry.isBuiltin, hnone, hother]
  · simp only [Registry.isBuiltin, hf, hg, Option.isSome]

lemma Run.Alike.refl (r : Run) : r.Alike r := ⟨rfl, rfl, rfl⟩

lemma EndsAlike.refl (a : Outcome × Run) : EndsAlike a a := ⟨rfl, .refl _⟩

lemma Run.Alike.logAll (h : r.Alike s) (actions : List Action) :
    (r.logAll actions).Alike (s.logAll actions) where
  world := h.world
  started := h.started
  trace := by simp only [logAll_trace, List.map_append, h.trace]

/-- What does not read the trace does the same in runs that are alike. -/
lemma Run.Alike.of_behind {α : Type} {f : Run → α × Run}
    (hf : ∀ earlier r, f (r.behind earlier) = Prod.map id (Run.behind earlier) (f r))
    (h : r.Alike s) : (f r).1 = (f s).1 ∧ (f r).2.Alike (f s).2 := by
  let bare : Run := ⟨r.world, r.started, []⟩
  have hr : r = bare.behind r.trace := by simp [bare, Run.behind]
  have hs : s = bare.behind s.trace := by simp [bare, Run.behind, h.world, h.started]
  rw [hr, hs, hf, hf]
  refine ⟨rfl, rfl, rfl, ?_⟩
  simp only [Prod.map, Run.behind, List.map_append, h.trace]

end

/-! ## Operations that do not read the trace -/

lemma writeAll_behind (earlier : List Action) (mode : WriteMode) (bytes : ByteArray)
    (targets : List Path) (r : Run) :
    writeAll mode bytes targets (r.behind earlier) =
      Prod.map id (Run.behind earlier) (writeAll mode bytes targets r) := by
  induction targets generalizing r with
  | nil => rfl
  | cons target rest ih =>
    have hworld : (r.behind earlier).world = r.world := rfl
    simp only [writeAll, hworld]
    obtain ⟨done, w⟩ := r.world.write mode target bytes
    have hlog : { (r.behind earlier).log (.openTarget target (r.world.opens target)) with
          world := w } =
        Run.behind earlier
          { r.log (.openTarget target (r.world.opens target)) with world := w } := by
      simp [Run.log, Run.behind]
    cases done with
    | ok => simp only [hlog, ih]
    | error e =>
      cases e with
      | system error =>
        simp only [hlog, ih]
        obtain ⟨answer, r'⟩ := writeAll mode bytes rest
          { r.log (.openTarget target (r.world.opens target)) with world := w }
        cases answer <;> rfl
      | _ => simp only [hlog]; rfl

lemma deliver_alike (raw : ByteArray) (code : Int) (clause : Option Clause)
    (messages others : List String) {r s : Run} (h : r.Alike s) :
    EndsAlike (deliver raw code clause messages r) (deliver raw code clause others s) := by
  cases destined raw clause with
  | nowhere hdecode =>
    rw [deliver_of_error code messages r hdecode, deliver_of_error code others s hdecode]
    exact ⟨rfl, h⟩
  | back hdecode hkeeps =>
    rw [deliver_of_keeps code messages r hdecode hkeeps,
      deliver_of_keeps code others s hdecode hkeeps]
    exact ⟨rfl, h⟩
  | @targets c text hdecode hop =>
    rw [deliver_of_takes code messages r hdecode hop, deliver_of_takes code others s hdecode hop]
    obtain ⟨hsame, hrun⟩ := (h.logAll [.deliver text.length c.targets]).of_behind
      (fun earlier => writeAll_behind earlier c.mode text.toByteArray c.targets)
    refine ⟨?_, hrun⟩
    have htried : (c.writeTargets text (r.log (.deliver text.length c.targets))).1 =
        (c.writeTargets text (s.log (.deliver text.length c.targets))).1 := hsame
    simp only [htried]
    cases (c.writeTargets text (s.log (.deliver text.length c.targets))).1 with
    | error e => rfl
    | ok failures => cases failures <;> rfl

/-! ## Chains -/

/-- Chains that differ at most in diagnostics and in the failures of builtins. -/
structure Chain.Alike (c d : Chain) : Prop where
  run : c.run.Alike d.run
  started : c.started = d.started
  previous : c.previous = d.previous

/-- What sending stages off has come to, alike in both of two registries. -/
inductive SteppedAlike : Except (Outcome × Run) Chain → Except (Outcome × Run) Chain → Prop
  | halted {a b : Outcome × Run} (h : EndsAlike a b) : SteppedAlike (.error a) (.error b)
  | stands {c d : Chain} (h : c.Alike d) : SteppedAlike (.ok c) (.ok d)

/-- Builtins that are alike hand back an escape both, and the same, or neither of them does. -/
lemma handedBack_alike {a b : HandlerEnd} (h : a.pardoned = b.pardoned) (command : String) :
    (∃ e, a.handedBack command = .error e ∧ b.handedBack command = .error e) ∨
      ∃ failures others, a.handedBack command = .ok failures ∧
        b.handedBack command = .ok others := by
  cases a <;> cases b <;> simp_all [HandlerEnd.pardoned, HandlerEnd.handedBack]

lemma callBuiltin_alike {f g : Handler} (h : f.Alike g) (stage : Stage) {r s : Run}
    (hrun : r.Alike s) :
    ((∃ e, (callBuiltin f stage r).1 = .error e ∧ (callBuiltin g stage s).1 = .error e) ∨
      ∃ failures others, (callBuiltin f stage r).1 = .ok failures ∧
        (callBuiltin g stage s).1 = .ok others) ∧
      (callBuiltin f stage r).2.Alike (callBuiltin g stage s).2 := by
  cases hf : f (stage.args.map Path.ofString) r.world with
  | mk ended w =>
    cases hg : g (stage.args.map Path.ofString) s.world with
    | mk ended' w' =>
      obtain ⟨hended, hworld⟩ := h (stage.args.map Path.ofString) r.world
      rw [hf] at hended hworld
      rw [hrun.world, hg] at hended hworld
      rw [callBuiltin_of_eq hf, callBuiltin_of_eq hg]
      refine ⟨handedBack_alike hended stage.command, hworld, hrun.started, ?_⟩
      simp only [List.map_append, hrun.trace, List.map_cons, Action.pardoned, hended,
        List.map_nil]

section
variable {reg other : Registry Handler} (spawner : Spawner) (halike : reg.Alike other)
include halike

lemma Chain.Alike.step {c d : Chain} (h : c.Alike d) (source : Option Path) (stage : Stage) :
    SteppedAlike (c.step reg spawner source stage) (d.step other spawner source stage) := by
  have hpending : c.pending = d.pending := by simp only [pending, h.previous]
  obtain ⟨hnone, hother⟩ | ⟨f, g, hf, hg, hfg⟩ := halike.cases stage.command
  · obtain ⟨hsame, hrun⟩ := h.run.of_behind
      (f := spawnStage spawner (other.argv stage.command stage.args) d.pending source)
      fun earlier => spawnStage_behind earlier _ _ _
    simp only [Chain.step, hnone, hother, halike.argv, hpending]
    revert hsame hrun
    generalize spawnStage spawner _ _ _ c.run = a
    generalize spawnStage spawner _ _ _ d.run = b
    intro hsame hrun
    obtain ⟨answer, r⟩ := a
    obtain ⟨answer', s⟩ := b
    cases hsame
    cases answer with
    | ok started => exact .stands ⟨hrun, by rw [h.started], rfl⟩
    | error fault => cases fault <;> exact .halted ⟨rfl, hrun⟩
  · obtain ⟨hback, hrun⟩ :=
      callBuiltin_alike hfg stage (h.run.logAll (closePending d.pending))
    rw [Chain.step_of_builtin reg spawner hf, Chain.step_of_builtin other spawner hg, hpending]
    revert hback hrun
    generalize callBuiltin f stage _ = a
    generalize callBuiltin g stage _ = b
    intro hback hrun
    obtain ⟨answer, r⟩ := a
    obtain ⟨answer', s⟩ := b
    obtain ⟨e, rfl, rfl⟩ | ⟨failures, others, rfl, rfl⟩ := hback
    · exact .halted ⟨rfl, hrun⟩
    · exact .stands ⟨hrun, h.started, rfl⟩

lemma Chain.Alike.steps {c d : Chain} (h : c.Alike d) (source : Option Path)
    (stages : List Stage) :
    SteppedAlike (c.steps reg spawner source stages) (d.steps other spawner source stages) := by
  induction stages generalizing c d source with
  | nil => exact .stands h
  | cons stage rest ih =>
    have hstep := h.step spawner halike source stage
    simp only [Chain.steps]
    revert hstep
    generalize c.step reg spawner source stage = a
    generalize d.step other spawner source stage = b
    intro hstep
    cases hstep with
    | halted h => exact .halted h
    | stands h => exact ih h none

end

lemma Chain.Alike.finish {c d : Chain} (h : c.Alike d) (clause : Option Clause) :
    EndsAlike (c.finish clause) (d.finish clause) := by
  have houtput : c.output = d.output := by simp only [output, h.previous]
  have hreaping : c.reaping = d.reaping := by
    simp only [reaping, draining, waited, h.previous, h.started]
  rw [finish_eq, finish_eq, houtput, hreaping]
  exact deliver_alike _ _ _ _ _ (h.run.logAll _)

/-! ## Pipelines -/

section
variable {reg other : Registry Handler} (spawner : Spawner) (halike : reg.Alike other)
include halike

lemma runChain_alike (first : Stage) (rest : List Stage) (clause : Option Clause) (r : Run) :
    EndsAlike (runChain reg spawner first rest clause r)
      (runChain other spawner first rest clause r) := by
  have hfirst (source : Option Path) : noticeFirst other first source r =
      noticeFirst reg first source r := by
    simp only [noticeFirst, halike.isBuiltin]
  unfold runChain
  cases inputSource clause with
  | error e => exact .refl _
  | ok source =>
    simp only [hfirst]
    obtain ⟨answer, r'⟩ := noticeFirst reg first source r
    cases answer with
    | error fault => exact .refl _
    | ok notices =>
      have hstart : Chain.Alike ⟨r', notices, [], none⟩ ⟨r', notices, [], none⟩ :=
        ⟨.refl r', rfl, rfl⟩
      have hsteps := hstart.steps spawner halike source (first :: rest)
      dsimp only
      revert hsteps
      generalize Chain.steps reg spawner _ source (first :: rest) = a
      generalize Chain.steps other spawner _ source (first :: rest) = b
      intro hsteps
      cases hsteps with
      | halted h => exact h
      | stands h => exact h.finish clause

lemma runSingle_alike (stage : Stage) (r : Run) :
    EndsAlike (runSingle reg spawner stage r) (runSingle other spawner stage r) := by
  obtain ⟨hnone, hother⟩ | ⟨f, g, hf, hg, hfg⟩ := halike.cases stage.command
  · simp only [runSingle, hnone, hother, runProgram, halike.argv]
    exact .refl _
  · simp only [runSingle, hf, hg, runBuiltin]
    cases inputSource stage.clause with
    | error e => exact .refl _
    | ok source =>
      dsimp only
      obtain ⟨answer, r'⟩ := noticeIgnored source stage.command r
      cases answer with
      | error fault => exact .refl _
      | ok notices =>
        obtain ⟨hback, hrun⟩ := callBuiltin_alike hfg stage (Run.Alike.refl r')
        dsimp only
        revert hback hrun
        generalize callBuiltin f stage r' = a
        generalize callBuiltin g stage r' = b
        intro hback hrun
        obtain ⟨answer, s⟩ := a
        obtain ⟨answer', s'⟩ := b
        obtain ⟨e, rfl, rfl⟩ | ⟨failures, others, rfl, rfl⟩ := hback
        · exact ⟨rfl, hrun⟩
        · exact deliver_alike _ _ _ _ _ hrun

/-- Whether builtins fail makes a difference to nothing but the diagnostics. -/
theorem execute_alike (p : Pipeline) (r : Run) :
    EndsAlike (execute reg spawner p r) (execute other spawner p r) := by
  by_cases hchain : 2 ≤ p.stages.length
  · obtain ⟨first, rest, hstages, hrun⟩ := execute_of_two_le reg spawner hchain r
    obtain ⟨first', rest', hstages', hrun'⟩ := execute_of_two_le other spawner hchain r
    obtain ⟨rfl, rfl⟩ := List.cons.inj (hstages.symm.trans hstages')
    rw [hrun, hrun']
    exact runChain_alike spawner halike first rest p.clause _
  · have hlt := Nat.lt_of_not_le hchain
    obtain ⟨stage, hstages, -, hrun⟩ := execute_of_lt_two reg spawner hlt r
    obtain ⟨stage', hstages', -, hrun'⟩ := execute_of_lt_two other spawner hlt r
    obtain ⟨rfl, -⟩ := List.cons.inj (hstages.symm.trans hstages')
    rw [hrun, hrun']
    exact runSingle_alike spawner halike stage _

end

end CommandShell
