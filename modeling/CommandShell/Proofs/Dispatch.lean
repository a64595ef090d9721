import CommandShell.Execution
import Mathlib.Tactic.Lemma

/-!
# What dispatching a stage can do

A builtin is called once whatever was left open has been closed. A program is started on the output
of the program before it, on an opened file or on a new pipe, and what was opened for the start is
closed after it. `Chain.Step` lists all that can happen to one stage, with the actions that leave a
trace, and `Chain.Steps` strings the stages together; statements about chains are read off them.
-/
namespace CommandShell

/-- Where the input of a program in a chain comes from. -/
inductive Wiring
  | handoff (earlier : Nat) (bytes : ByteArray)
  | source (path : Path) (identity : Option Nat) (bytes : ByteArray)
  | fresh

namespace Wiring

def stdin : Wiring → Stdin
  | handoff earlier bytes => .handoff earlier bytes
  | source _ identity bytes => .source identity bytes
  | fresh => .fed .empty

/-- What is done before the spawner is called. -/
def opening : Wiring → List Action
  | source path _ _ => [.openSource path true]
  | _ => []

/-- What is done after the spawner has come back. -/
def closing : Wiring → Except SpawnFault (Nat × Process) → List Action
  | handoff earlier _, _ => [.closeStdout earlier]
  | source path _ _, _ => [.closeSource path]
  | fresh, .ok (number, process) => if process.hasInput then [.closeStdin number] else []
  | fresh, .error _ => []

/-- What a fault of the spawner means for the stage. Under an opened file anything that is no
refusal is taken for a fault of the file. -/
def fault : Wiring → SpawnFault → StageFault
  | source path _ _, .escaped e => sourceFault path e
  | _, fault => spawnFault fault

/-- After a start on a new pipe nothing but the pipe is closed. -/
lemma closing_fresh (answer : Except SpawnFault (Nat × Process)) :
    fresh.closing answer = [] ∨ ∃ number, fresh.closing answer = [.closeStdin number] := by
  match answer with
  | .error fault => exact .inl rfl
  | .ok (number, process) =>
    cases hinput : process.hasInput with
    | false => exact .inl (by simp [closing, hinput])
    | true => exact .inr ⟨number, by simp [closing, hinput]⟩

end Wiring

/-- A call of the spawner and what came of it. -/
def spawnActions (argv : List String) (stdin : Stdin) :
    Except SpawnFault (Nat × Process) → List Action
  | .ok (number, process) => [.spawn argv stdin (some number), .started number process]
  | .error fault => [.spawn argv stdin none, .notStarted fault]

/-- All that is done to start a program. -/
def Wiring.actions (wiring : Wiring) (argv : List String)
    (answer : Except SpawnFault (Nat × Process)) : List Action :=
  wiring.opening ++ spawnActions argv wiring.stdin answer ++ wiring.closing answer

/-- The wiring of a stage: what is left of the program before it, else the source, else nothing. -/
inductive Wired (w : World) : Option (Nat × ByteArray) → Option Path → Wiring → Prop
  | handoff (earlier : Nat) (bytes : ByteArray) (source : Option Path) :
      Wired w (some (earlier, bytes)) source (.handoff earlier bytes)
  | source {path : Path} {bytes : ByteArray} (hread : w.read path = .ok bytes) :
      Wired w none (some path) (.source path (w.identity? path) bytes)
  | fresh : Wired w none none .fresh

namespace Run
variable {r : Run} {spawner : Spawner} {argv : List String} {stdin : Stdin} {w : World}

lemma logAll_nil (r : Run) : r.logAll [] = r := by simp [logAll]

lemma spawn_of_ok {process : Process} (h : spawner argv stdin r.world = (.ok process, w)) :
    r.spawn spawner argv stdin = (.ok (r.started, process),
      ⟨w, r.started + 1, r.trace ++ spawnActions argv stdin (.ok (r.started, process))⟩) := by
  simp only [spawn, h, spawnActions]

lemma spawn_of_error {fault : SpawnFault} (h : spawner argv stdin r.world = (.error fault, w)) :
    r.spawn spawner argv stdin =
      (.error fault, ⟨w, r.started, r.trace ++ spawnActions argv stdin (.error fault)⟩) := by
  simp only [spawn, h, spawnActions]

lemma readSource_of_ok {path : Path} {bytes : ByteArray} (h : r.world.read path = .ok bytes) :
    r.readSource path = (.ok bytes, r.logAll [.openSource path true, .closeSource path]) := by
  simp [readSource, openSource, h, log, logAll, Except.isOk, Except.toBool]

lemma readSource_of_error {path : Path} {e : Escape} (h : r.world.read path = .error e) :
    r.readSource path = (.error e, r.logAll [.openSource path false]) := by
  simp [readSource, openSource, h, log, logAll, Except.isOk, Except.toBool]

end Run

/-- How a program in a chain can fail to start or start. -/
inductive SpawnEnd (spawner : Spawner) (argv : List String) (pending : Option (Nat × ByteArray))
    (source : Option Path) (r : Run) : Except StageFault (Nat × Process) × Run → Prop
  | unopened {path : Path} {e : Escape} (hpending : pending = none) (hsource : source = some path)
      (hread : r.world.read path = .error e) :
      SpawnEnd spawner argv pending source r
        (.error (sourceFault path e), r.logAll [.openSource path false])
  | started {wiring : Wiring} {process : Process} {w : World}
      (hwired : Wired r.world pending source wiring)
      (hspawn : spawner argv wiring.stdin r.world = (.ok process, w)) :
      SpawnEnd spawner argv pending source r (.ok (r.started, process),
        ⟨w, r.started + 1, r.trace ++ wiring.actions argv (.ok (r.started, process))⟩)
  | notStarted {wiring : Wiring} {fault : SpawnFault} {w : World}
      (hwired : Wired r.world pending source wiring)
      (hspawn : spawner argv wiring.stdin r.world = (.error fault, w)) :
      SpawnEnd spawner argv pending source r (.error (wiring.fault fault),
        ⟨w, r.started, r.trace ++ wiring.actions argv (.error fault)⟩)

section
variable (spawner : Spawner) (argv : List String) (r : Run)

lemma spawnHandoff_end (earlier : Nat) (bytes : ByteArray) (source : Option Path) :
    SpawnEnd spawner argv (some (earlier, bytes)) source r
      (spawnHandoff spawner argv earlier bytes r) := by
  have hwired := Wired.handoff (w := r.world) earlier bytes source
  cases hspawn : spawner argv (.handoff earlier bytes) r.world with
  | mk answer w =>
    cases answer with
    | ok process =>
      simpa [spawnHandoff, Run.spawn_of_ok hspawn, Run.log, Wiring.actions, Wiring.opening,
        Wiring.closing, Wiring.stdin] using SpawnEnd.started hwired hspawn
    | error fault =>
      simpa [spawnHandoff, Run.spawn_of_error hspawn, Run.log, Wiring.actions, Wiring.opening,
        Wiring.closing, Wiring.stdin, Wiring.fault] using SpawnEnd.notStarted hwired hspawn

lemma spawnFresh_end : SpawnEnd spawner argv none none r (spawnFresh spawner argv r) := by
  have hwired := Wired.fresh (w := r.world)
  cases hspawn : spawner argv (.fed .empty) r.world with
  | mk answer w =>
    cases answer with
    | ok process =>
      have hend := SpawnEnd.started hwired hspawn
      cases hinput : process.hasInput <;>
        simpa [spawnFresh, Run.spawn_of_ok hspawn, Run.log, Wiring.actions, Wiring.opening,
          Wiring.closing, Wiring.stdin, hinput] using hend
    | error fault =>
      simpa [spawnFresh, Run.spawn_of_error hspawn, Wiring.actions, Wiring.opening,
        Wiring.closing, Wiring.stdin, Wiring.fault] using SpawnEnd.notStarted hwired hspawn

lemma spawnSource_end (path : Path) :
    SpawnEnd spawner argv none (some path) r (spawnSource spawner argv path r) := by
  cases hread : r.world.read path with
  | error e =>
    have hend : SpawnEnd spawner argv none (some path) r _ := .unopened rfl rfl hread
    simpa [spawnSource, Run.openSource, hread, Run.log, Run.logAll, Except.isOk, Except.toBool]
      using hend
  | ok bytes =>
    have hwired := Wired.source hread
    have hopen : r.openSource path = (.ok bytes, r.logAll [.openSource path true]) := by
      simp [Run.openSource, hread, Run.log, Run.logAll, Except.isOk, Except.toBool]
    cases hspawn : spawner argv (.source (r.world.identity? path) bytes) r.world with
    | mk answer w =>
      cases answer with
      | ok process =>
        have hstart := Run.spawn_of_ok (r := r.logAll [.openSource path true]) hspawn
        simpa [spawnSource, hopen, hstart, Run.log, Wiring.actions, Wiring.opening,
          Wiring.closing, Wiring.stdin] using SpawnEnd.started hwired hspawn
      | error fault =>
        have hstart := Run.spawn_of_error (r := r.logAll [.openSource path true]) hspawn
        have hend := SpawnEnd.notStarted hwired hspawn
        cases fault <;>
          simpa [spawnSource, hopen, hstart, Run.log, Wiring.actions, Wiring.opening,
            Wiring.closing, Wiring.stdin, Wiring.fault] using hend

theorem spawnStage_end (pending : Option (Nat × ByteArray)) (source : Option Path) :
    SpawnEnd spawner argv pending source r (spawnStage spawner argv pending source r) := by
  match pending, source with
  | some (earlier, bytes), source => exact spawnHandoff_end spawner argv r earlier bytes source
  | none, some path => exact spawnSource_end spawner argv r path
  | none, none => exact spawnFresh_end spawner argv r

end

/-- The messages of a builtin that has come back. -/
def HandlerEnd.failures (command : String) : HandlerEnd → List String
  | .failed reason => [builtinFailed command reason]
  | _ => []

/-- What a builtin gives back to the shell. -/
def HandlerEnd.handedBack (command : String) : HandlerEnd → Except Escape (List String)
  | .left e => .error e
  | ended => .ok (ended.failures command)

/-- What becomes of a handle that nobody will read. -/
def closePending : Option (Nat × ByteArray) → List Action
  | none => []
  | some (number, _) => [.closeStdout number]

/-- All that is done to call a builtin. -/
def callActions (pending : Option (Nat × ByteArray)) (stage : Stage) (ended : HandlerEnd) :
    List Action :=
  closePending pending ++ [.call stage.command stage.args, .returned ended]

lemma callBuiltin_of_eq {r : Run} {handler : Handler} {stage : Stage} {ended : HandlerEnd}
    {w : World} (h : handler (stage.args.map Path.ofString) r.world = (ended, w)) :
    callBuiltin handler stage r =
      (ended.handedBack stage.command,
        ⟨w, r.started, r.trace ++ [.call stage.command stage.args, .returned ended]⟩) := by
  cases ended <;>
    simp [callBuiltin, Run.call, h, Run.logAll, HandlerEnd.handedBack, HandlerEnd.failures]

section
variable (reg : Registry Handler) (spawner : Spawner)

/-- What dispatching a stage can do and what comes of it: the chain goes on or it halts. -/
inductive Chain.Step (c : Chain) (source : Option Path) (stage : Stage) :
    List Action → Except (Outcome × Run) Chain → Prop
  | called {handler : Handler} {ended : HandlerEnd} {w : World}
      (hbuiltin : reg.builtin? stage.command = some handler)
      (hcall : handler (stage.args.map Path.ofString) c.run.world = (ended, w))
      (hback : ∀ e, ended ≠ .left e) :
      Chain.Step c source stage (callActions c.pending stage ended)
        (.ok ⟨⟨w, c.run.started, c.run.trace ++ callActions c.pending stage ended⟩,
          c.messages ++ chainBroken stage.command :: ended.failures stage.command,
          c.started, none⟩)
  | left {handler : Handler} {e : Escape} {w : World}
      (hbuiltin : reg.builtin? stage.command = some handler)
      (hcall : handler (stage.args.map Path.ofString) c.run.world = (.left e, w)) :
      Chain.Step c source stage (callActions c.pending stage (.left e))
        (.error (.left e,
          ⟨w, c.run.started, c.run.trace ++ callActions c.pending stage (.left e)⟩))
  | unopened {path : Path} {e : Escape} (hprogram : reg.builtin? stage.command = none)
      (hpending : c.pending = none) (hsource : source = some path)
      (hread : c.run.world.read path = .error e) :
      Chain.Step c source stage [.openSource path false]
        (.error ((sourceFault path e).outcome c.messages,
          c.run.logAll [.openSource path false]))
  | started {wiring : Wiring} {process : Process} {w : World}
      (hprogram : reg.builtin? stage.command = none)
      (hwired : Wired c.run.world c.pending source wiring)
      (hspawn : spawner (reg.argv stage.command stage.args) wiring.stdin c.run.world =
        (.ok process, w)) :
      Chain.Step c source stage
        (wiring.actions (reg.argv stage.command stage.args) (.ok (c.run.started, process)))
        (.ok ⟨⟨w, c.run.started + 1, c.run.trace ++
            wiring.actions (reg.argv stage.command stage.args) (.ok (c.run.started, process))⟩,
          c.messages, c.started ++ [c.run.started], some (c.run.started, process)⟩)
  | notStarted {wiring : Wiring} {fault : SpawnFault} {w : World}
      (hprogram : reg.builtin? stage.command = none)
      (hwired : Wired c.run.world c.pending source wiring)
      (hspawn : spawner (reg.argv stage.command stage.args) wiring.stdin c.run.world =
        (.error fault, w)) :
      Chain.Step c source stage
        (wiring.actions (reg.argv stage.command stage.args) (.error fault))
        (.error ((wiring.fault fault).outcome c.messages,
          ⟨w, c.run.started, c.run.trace ++
            wiring.actions (reg.argv stage.command stage.args) (.error fault)⟩))

/-- How a chain goes on after a builtin, or halts when it has left. -/
def Chain.afterBuiltin (c : Chain) (stage : Stage) :
    Except Escape (List String) × Run → Except (Outcome × Run) Chain
  | (.error e, r) => .error (.left e, r)
  | (.ok failures, r) =>
    .ok ⟨r, c.messages ++ chainBroken stage.command :: failures, c.started, none⟩

lemma Chain.step_of_builtin {c : Chain} {source : Option Path} {stage : Stage} {handler : Handler}
    (h : reg.builtin? stage.command = some handler) :
    c.step reg spawner source stage =
      c.afterBuiltin stage
        (callBuiltin handler stage (c.run.logAll (closePending c.pending))) := by
  simp only [Chain.step, h]
  cases c.pending with
  | none =>
    rw [closePending, Run.logAll_nil]
    rfl
  | some handle => rfl

/-- Every dispatch is one of these. -/
theorem Chain.step_spec (c : Chain) (source : Option Path) (stage : Stage) :
    ∃ actions, Chain.Step reg spawner c source stage actions
      (c.step reg spawner source stage) := by
  cases hbuiltin : reg.builtin? stage.command with
  | none =>
    have hend := spawnStage_end spawner (reg.argv stage.command stage.args) c.run c.pending source
    simp only [Chain.step, hbuiltin]
    revert hend
    generalize spawnStage spawner _ c.pending source c.run = result
    intro hend
    cases hend with
    | unopened hpending hsource hread => exact ⟨_, .unopened hbuiltin hpending hsource hread⟩
    | started hwired hspawn => exact ⟨_, .started hbuiltin hwired hspawn⟩
    | notStarted hwired hspawn => exact ⟨_, .notStarted hbuiltin hwired hspawn⟩
  | some handler =>
    cases hcall : handler (stage.args.map Path.ofString) c.run.world with
    | mk ended w =>
      have hback := callBuiltin_of_eq (r := c.run.logAll (closePending c.pending)) hcall
      refine ⟨callActions c.pending stage ended, ?_⟩
      rw [Chain.step_of_builtin reg spawner hbuiltin, hback, Run.logAll_trace, List.append_assoc]
      cases ended with
      | left e => exact .left hbuiltin hcall
      | done => exact .called hbuiltin hcall fun e => HandlerEnd.noConfusion
      | failed reason => exact .called hbuiltin hcall fun e => HandlerEnd.noConfusion

/-- Dispatching stages in order, up to the first one at which the chain halts. Only the first stage
sees the source. -/
inductive Chain.Steps : Chain → Option Path → List Stage → List Action →
    Except (Outcome × Run) Chain → Prop
  | nil (c : Chain) (source : Option Path) : Chain.Steps c source [] [] (.ok c)
  | halt {c : Chain} {source : Option Path} {stage : Stage} {rest : List Stage}
      {actions : List Action} {halted : Outcome × Run}
      (hstep : Chain.Step reg spawner c source stage actions (.error halted)) :
      Chain.Steps c source (stage :: rest) actions (.error halted)
  | step {c d : Chain} {source : Option Path} {stage : Stage} {rest : List Stage}
      {actions more : List Action} {result : Except (Outcome × Run) Chain}
      (hstep : Chain.Step reg spawner c source stage actions (.ok d))
      (hrest : Chain.Steps d none rest more result) :
      Chain.Steps c source (stage :: rest) (actions ++ more) result

theorem Chain.steps_spec (c : Chain) (source : Option Path) (stages : List Stage) :
    ∃ actions, Chain.Steps reg spawner c source stages actions
      (c.steps reg spawner source stages) := by
  induction stages generalizing c source with
  | nil => exact ⟨[], .nil c source⟩
  | cons stage rest ih =>
    obtain ⟨actions, hstep⟩ := c.step_spec reg spawner source stage
    cases hresult : c.step reg spawner source stage with
    | error halted =>
      rw [hresult] at hstep
      exact ⟨actions, by simpa only [Chain.steps, hresult] using .halt hstep⟩
    | ok d =>
      rw [hresult] at hstep
      obtain ⟨more, hrest⟩ := ih d none
      exact ⟨actions ++ more, by simpa only [Chain.steps, hresult] using .step hstep hrest⟩

end

/-- The run at the place where a chain stands or has halted. -/
def reached : Except (Outcome × Run) Chain → Run
  | .ok c => c.run
  | .error halted => halted.2

section
variable {reg : Registry Handler} {spawner : Spawner} {c : Chain} {source : Option Path}
  {actions : List Action} {result : Except (Outcome × Run) Chain}

lemma Chain.Step.trace {stage : Stage}
    (h : Chain.Step reg spawner c source stage actions result) :
    (reached result).trace = c.run.trace ++ actions := by
  cases h <;> rfl

lemma Chain.Steps.trace {stages : List Stage}
    (h : Chain.Steps reg spawner c source stages actions result) :
    (reached result).trace = c.run.trace ++ actions := by
  induction h with
  | nil => simp [reached]
  | halt hstep => exact hstep.trace
  | step hstep hrest ih =>
    rw [ih, ← List.append_assoc]
    exact congrArg (· ++ _) hstep.trace

end
end CommandShell
