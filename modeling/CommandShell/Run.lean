import CommandShell.Pipeline
import CommandShell.Process

/-!
# Runs

A run is the world together with the trace of what the shell has done to it: every call of a
builtin or of the spawner and what came of it, every handle closed, read or waited for, every file
opened for a clause. Spawners and handlers see the world and not the trace, so what the trace says
is the shell's doing.
-/
namespace CommandShell

/-- Something the shell does. Programs are counted from zero in the order in which they started. -/
inductive Action
  | readWords (tokens : List String)
  | readTree (tokens : List String) (tree : Node)
  | planned (pipeline : Pipeline)
  | showTree (tree : Node)
  | execute (stages : List Stage)
  | openSource (path : Path) (opened : Bool)
  | closeSource (path : Path)
  /-- A call of the spawner, and the number of the program if one was started. -/
  | spawn (argv : List String) (stdin : Stdin) (started : Option Nat)
  /-- The spawner came back with a program. -/
  | started (program : Nat) (process : Process)
  /-- The spawner came back without one. -/
  | notStarted (fault : SpawnFault)
  | closeStdin (program : Nat)
  | closeStdout (program : Nat)
  | readStdout (program : Nat)
  | wait (program : Nat)
  /-- Feeding a program, if there is anything to feed, and reading it to its end. -/
  | communicate (program : Nat) (feed : Option Nat)
  /-- Reading a program to its end has given nothing that could be taken for an output. -/
  | uncollected (program : Nat)
  | call (name : String) (args : List String)
  /-- The builtin came back. -/
  | returned (ended : HandlerEnd)
  | deliver (length : Nat) (targets : List Path)
  | openTarget (path : Path) (opened : Bool)
  deriving DecidableEq

structure Run where
  world : World
  /-- How many programs have been started. -/
  started : Nat
  trace : List Action

namespace Run

def begin (w : World) : Run := ⟨w, 0, []⟩

def log (r : Run) (a : Action) : Run := { r with trace := r.trace ++ [a] }

def logAll (r : Run) (actions : List Action) : Run := { r with trace := r.trace ++ actions }

def spawn (r : Run) (spawner : Spawner) (argv : List String) (stdin : Stdin) :
    Except SpawnFault (Nat × Process) × Run :=
  match spawner argv stdin r.world with
  | (.ok p, w) =>
    (.ok (r.started, p),
      ⟨w, r.started + 1,
        r.trace ++ [.spawn argv stdin (some r.started), .started r.started p]⟩)
  | (.error fault, w) =>
    (.error fault, ⟨w, r.started, r.trace ++ [.spawn argv stdin none, .notStarted fault]⟩)

/-- Calls a builtin. Its arguments are paths. -/
def call (r : Run) (handler : Handler) (stage : Stage) : HandlerEnd × Run :=
  let ended := handler (stage.args.map Path.ofString) r.world
  (ended.1,
    { r.logAll [.call stage.command stage.args, .returned ended.1] with world := ended.2 })

/-- Opens a file for reading and keeps it open. -/
def openSource (r : Run) (path : Path) : Except Escape ByteArray × Run :=
  let contents := r.world.read path
  (contents, r.log (.openSource path contents.isOk))

/-- Opens a file, reads it and closes it. -/
def readSource (r : Run) (path : Path) : Except Escape ByteArray × Run :=
  match r.openSource path with
  | (.ok bytes, r) => (.ok bytes, r.log (.closeSource path))
  | (.error e, r) => (.error e, r)

@[simp] theorem logAll_world (r : Run) (actions : List Action) :
    (r.logAll actions).world = r.world := rfl
@[simp] theorem logAll_started (r : Run) (actions : List Action) :
    (r.logAll actions).started = r.started := rfl
@[simp] theorem logAll_trace (r : Run) (actions : List Action) :
    (r.logAll actions).trace = r.trace ++ actions := rfl
@[simp] theorem log_world (r : Run) (a : Action) : (r.log a).world = r.world := rfl
@[simp] theorem log_started (r : Run) (a : Action) : (r.log a).started = r.started := rfl
@[simp] theorem log_trace (r : Run) (a : Action) : (r.log a).trace = r.trace ++ [a] := rfl

end Run
end CommandShell
