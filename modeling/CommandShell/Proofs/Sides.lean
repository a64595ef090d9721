import CommandShell.Proofs.Interchange

/-!
# Builtins on one side, programs on the other

Every stage that is sent off goes to one side. If its command is the name of a builtin, the builtin
is called, once, with the arguments as paths, and nobody asks what the name would stand for as an
alias. Otherwise the spawner is called, once, with the words that the command stands for and the
arguments as they are. The calls of a run are those of its stages, one for each, from left to right.
-/
namespace CommandShell
open Text

/-- The calls of builtins and of the spawner in a run of a pipeline, in order. -/
def callsIn (reg : Registry Handler) (spawner : Spawner) (p : Pipeline) (r : Run) : List Action :=
  (actionsOf reg spawner p r).filter Action.isDispatch

/-- The words that a name stands for in a table of aliases: those of its alias, or the name alone.
They are not looked up again. -/
def leadingWords (aliases : Table String) (name : String) : List String :=
  match aliases.lookup name with
  | none => [name]
  | some target => words target

/-- Stages one after the other, with the one call that is made for each of them. A call finds the
world as the one before has left it. -/
inductive Routed (reg : Registry Handler) (spawner : Spawner) :
    World → List Stage → List Action → World → Prop
  | nil (w : World) : Routed reg spawner w [] [] w
  | toBuiltin {stage : Stage} {rest : List Stage} {handler : Handler} {calls : List Action}
      {w w' : World} (hbuiltin : reg.builtin? stage.command = some handler)
      (hrest : Routed reg spawner (handler (stage.args.map Path.ofString) w).2 rest calls w') :
      Routed reg spawner w (stage :: rest) (.call stage.command stage.args :: calls) w'
  | toSpawner {stage : Stage} {rest : List Stage} {stdin : Stdin} {started : Option Nat}
      {calls : List Action} {w w' : World} (hprogram : reg.builtin? stage.command = none)
      (hrest : Routed reg spawner
        (spawner (leadingWords reg.aliases stage.command ++ stage.args) stdin w).2 rest calls w') :
      Routed reg spawner w (stage :: rest)
        (.spawn (leadingWords reg.aliases stage.command ++ stage.args) stdin started :: calls) w'

section
variable {reg : Registry Handler} {spawner : Spawner} {p : Pipeline} {stages more : List Stage}
  {actions calls later : List Action} {w v v' : World}

namespace Routed

lemma append (h : Routed reg spawner w stages calls v)
    (hmore : Routed reg spawner v more later v') :
    Routed reg spawner w (stages ++ more) (calls ++ later) v' := by
  induction h with
  | nil => exact hmore
  | toBuiltin hbuiltin hrest ih => exact .toBuiltin hbuiltin (ih hmore)
  | toSpawner hprogram hrest ih => exact .toSpawner hprogram (ih hmore)

lemma of_dispatched (h : List.Forall₂ (Dispatches reg) stages calls) (w : World) :
    Routed reg spawner w stages calls (worldLeft reg spawner w calls) := by
  induction h generalizing w with
  | nil => exact .nil w
  | @cons stage call stages calls hstage hrest ih =>
    have hnext := ih (changed reg spawner w call)
    cases call with
    | call name args =>
      obtain ⟨hbuiltin, rfl, rfl⟩ := hstage
      obtain ⟨handler, hhandler⟩ := Option.isSome_iff_exists.1 hbuiltin
      simp only [changed, hhandler] at hnext
      simpa only [worldLeft, List.foldl_cons, changed, hhandler] using .toBuiltin hhandler hnext
    | spawn argv stdin started =>
      obtain ⟨hprogram, rfl, -⟩ := hstage
      exact .toSpawner hprogram hnext
    | _ => cases hstage

end Routed

lemma worldLeft_filter (w : World) (actions : List Action) :
    worldLeft reg spawner w (actions.filter Action.isDispatch) =
      worldLeft reg spawner w actions := by
  induction actions generalizing w with
  | nil => rfl
  | cons a actions ih =>
    cases a with
    | spawn | call => exact ih _
    | _ => exact ih w

/-- The stages that have been sent off in a run have been routed, and they are all stages unless
something has failed. -/
lemma Reported.routed {ended : Outcome × Run} (h : Reported reg spawner p w actions ended) :
    ∃ front back, p.stages = front ++ back ∧
      Routed reg spawner w front (actions.filter Action.isDispatch)
        (worldLeft reg spawner w actions) ∧
      (back = [] ∨ (∃ a ∈ actions, a.isFailure = true) ∨
        ∃ e, inputSource p.clause = .error e) := by
  have hsent {front : List Stage} {calls : List Returned} {before : List Action} {v : World}
      (hfront : SentOff reg spawner front calls w before v) :
      Routed reg spawner w front (before.filter Action.isDispatch)
        (worldLeft reg spawner w before) := by
    rw [← worldLeft_filter]
    exact .of_dispatched hfront.dispatched w
  cases h with
  | unnamed hbefore hsource =>
    refine ⟨[], p.stages, rfl, ?_, .inr (.inr ⟨_, hsource⟩)⟩
    rw [filter_isDispatch_of_idle hbefore.neither.isSending,
      worldLeft_of_idle hbefore.neither.isSending]
    exact .nil w
  | @unreadable front calls before source e messages r hsource hread hnext hfront =>
    obtain ⟨back, hstages⟩ := hnext
    refine ⟨front, back, hstages.symm, ?_, .inr (.inl ⟨.openSource source false, by simp, rfl⟩)⟩
    rw [List.filter_append, worldLeft_append]
    simpa [Action.isDispatch, worldLeft, changed] using hsent hfront
  | @left front stage calls before handler e v r hnext hfront hbuiltin hcall =>
    obtain ⟨back, hstages⟩ := hnext
    refine ⟨front ++ [stage], back, hstages.symm, ?_,
      .inr (.inl ⟨.returned (.left e), by simp, rfl⟩)⟩
    have hcalled (u : World) : worldLeft reg spawner u
        [.call stage.command stage.args, .returned (.left e)] =
          (handler (stage.args.map Path.ofString) u).2 := by
      simp [worldLeft, changed, hbuiltin]
    rw [List.filter_append, worldLeft_append, hcalled]
    exact (hsent hfront).append (.toBuiltin hbuiltin (.nil _))
  | @notStarted front stage calls before after stdin fault halt v r hnext hfront hprogram hspawn
      hafter =>
    obtain ⟨back, hstages⟩ := hnext
    refine ⟨front ++ [stage], back, hstages.symm, ?_,
      .inr (.inl ⟨.notStarted fault, by simp [spawnActions], rfl⟩)⟩
    rw [List.filter_append, List.filter_append, worldLeft_append, worldLeft_append,
      filter_isDispatch_of_idle hafter.neither.isSending,
      worldLeft_of_idle hafter.neither.isSending, List.append_nil]
    exact (hsent hfront).append (.toSpawner hprogram (.nil _))
  | @uncollected stage before stdin number process v r hstages hfront =>
    refine ⟨p.stages, [], (List.append_nil _).symm, ?_, .inl rfl⟩
    rw [List.filter_append, worldLeft_append]
    simpa [Action.isDispatch, worldLeft, changed] using hsent hfront
  | @delivered calls before delivery code r hfront hdelivery =>
    have hidle := (neither_of_delivery hdelivery).isSending
    refine ⟨p.stages, [], (List.append_nil _).symm, ?_, .inl rfl⟩
    rw [List.filter_append, worldLeft_append, filter_isDispatch_of_idle hidle,
      worldLeft_of_idle hidle, List.append_nil]
    exact hsent hfront

end

/-- A registry answers for a stage by its builtin or, if there is none, by its alias. -/
lemma Interchangeable.of_agree {reg other : Registry Handler} {stage : Stage}
    (hbuiltins : other.builtin? stage.command = reg.builtin? stage.command)
    (haliases : reg.isBuiltin stage.command = false →
      other.alias? stage.command = reg.alias? stage.command) :
    Interchangeable other reg stage stage := by
  cases hbuiltin : reg.builtin? stage.command with
  | some handler => exact .builtin (hbuiltins.trans hbuiltin) hbuiltin
  | none =>
    have halias := haliases (isBuiltin_of_eq_none hbuiltin)
    refine .program (hbuiltins.trans hbuiltin) hbuiltin ?_ rfl
    rw [Registry.argv, Registry.argv, Registry.expand, Registry.expand, halias]

/-- The stages that are sent off in a run are the first ones of its pipeline, all of them unless
something fails, and the calls of the run are exactly theirs, in order: for each stage either that
of its builtin, with the arguments as paths, or that of the spawner, with the words of its alias, or
its bare name, before the arguments as they are. Each call is answered for the world that the ones
before have left, and only delivery comes after the world that all of them have left. What is asked
of the registry is which stages are builtins, and of those that are none what they stand for: the
aliases of builtins make no difference. -/
theorem stages_go_to_one_side (reg : Registry Handler) (spawner : Spawner) (p : Pipeline)
    (r : Run) :
    (∃ front back w, p.stages = front ++ back ∧
      Routed reg spawner r.world front (callsIn reg spawner p r) w ∧
      (back = [] ∨ (∃ a ∈ actionsOf reg spawner p r, a.isFailure = true) ∨
        ∃ e, inputSource p.clause = .error e) ∧
      ∃ before delivery, actionsOf reg spawner p r = before ++ delivery ∧
        Leads reg spawner r.world before w ∧ (∀ a ∈ delivery, a.IsDelivery) ∧
        ((∀ target, .openTarget target true ∉ delivery) →
          (execute reg spawner p r).2.world = w)) ∧
    ∀ other : Registry Handler,
      (∀ stage ∈ p.stages, other.builtin? stage.command = reg.builtin? stage.command) →
      (∀ stage ∈ p.stages, reg.isBuiltin stage.command = false →
        other.alias? stage.command = reg.alias? stage.command) →
      execute other spawner p r = execute reg spawner p r := by
  constructor
  · obtain ⟨front, back, hstages, hrouted, hall⟩ := (execute_reported reg spawner p r).routed
    obtain ⟨before, delivery, w, hactions, hleads, hdelivery, -, hworld⟩ :=
      execute_parts reg spawner p r
    have hleft : worldLeft reg spawner r.world (actionsOf reg spawner p r) = w := by
      rw [hactions, worldLeft_append, ← hleads.world,
        worldLeft_of_idle (neither_of_delivery hdelivery.isDelivery).isSending]
    rw [hleft] at hrouted
    exact ⟨front, back, w, hstages, hrouted, hall, before, delivery, hactions, hleads,
      hdelivery.isDelivery, hworld⟩
  · intro other hbuiltins haliases
    have hsame : List.Forall₂ (Interchangeable other reg) p.stages p.stages :=
      List.forall₂_same.2 fun stage hstage =>
        .of_agree (hbuiltins stage hstage) (haliases stage hstage)
    obtain ⟨outcome, w, started, actions, hrun, hrun'⟩ := execute_interchange spawner hsame r
    rw [hrun, hrun']

/-- A builtin under whose name there is an alias as well, and an alias of an alias: the first goes
to the builtin, and would without the alias; the second is looked up once. -/
theorem stages_go_to_one_side_of_shadowed :
    let lists : Handler := fun _ w => (.done, w.say "listed")
    let reg : Registry Handler :=
      ⟨[("ls", lists)], [("ls", "rm"), ("ll", "la"), ("la", "ls -a")], []⟩
    let other : Registry Handler := ⟨[("ls", lists)], [("ll", "la")], []⟩
    let spawner : Spawner := fun _ _ w => (.ok (.writing .empty true 0), w)
    let p : Pipeline := ⟨[⟨"ls", ["x/"], none⟩, ⟨"ll", ["y/"], none⟩], by decide⟩
    let r := Run.begin (.ofEntries [])
    callsIn reg spawner p r = [.call "ls" ["x/"], .spawn ["la", "y/"] (.fed .empty) (some 0)] ∧
      execute other spawner p r = execute reg spawner p r := by
  intro lists reg other spawner p r
  have hlists : reg.builtin? "ls" = some lists := rfl
  have hprogram : reg.builtin? "ll" = none := rfl
  have hargv : reg.argv "ll" ["y/"] = ["la", "y/"] := by
    have halias : leadingWords reg.aliases "ll" = ["la"] := by decide
    exact congrArg (· ++ ["y/"]) halias
  constructor
  · simp [callsIn, actionsOf, execute, runChain, p, r, Run.begin, Pipeline.clause, inputSource,
      noticeFirst, Registry.isBuiltin, hlists, hprogram, Chain.steps, Chain.step, Chain.pending,
      callBuiltin, Run.call, Run.log, Run.logAll, spawnStage, spawnFresh, Run.spawn, spawner, hargv,
      noticeIgnored, lists]
    rfl
  · obtain ⟨-, hsame⟩ := stages_go_to_one_side reg spawner p r
    refine hsame other (fun _ _ => rfl) fun stage hstage hside => ?_
    obtain rfl | rfl : stage = ⟨"ls", ["x/"], none⟩ ∨ stage = ⟨"ll", ["y/"], none⟩ := by
      simpa [p] using hstage
    · cases hside
    · rfl

end CommandShell
