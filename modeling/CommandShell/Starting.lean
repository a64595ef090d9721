import CommandShell.Process

/-!
# Starting programs

A host starts a program or fails: with an error of its own, or because a word holds what no host
takes. The shell turns the errors of a host into refusals, and lets everything else through.
-/
namespace CommandShell

/-- A host that starts programs, each with its name, its arguments and its input. -/
abbrev Starter := String → List String → Stdin → World → Except Escape Process × World

namespace SystemError

def number? : SystemError → Option Int
  | file fault _ => some fault.number
  | numbered number _ => some number
  | plain _ => none

/-- How the shell words an error that has kept a program from starting. -/
def startReason (error : SystemError) : String :=
  match error.number? with
  | some 2 => "command not found"
  | some 1 => "permission denied"
  | some 13 => "permission denied"
  | _ => error.reason

end SystemError

def nameMissing : SpawnFault := .refused "" "missing program name"

def Spawner.ofStarter (start : Starter) : Spawner := fun argv stdin w =>
  match argv with
  | [] => (.error nameMissing, w)
  | program :: args =>
    match start program args stdin w with
    | (.ok process, w) => (.ok process, w)
    | (.error (.system error), w) => (.error (.refused program error.startReason), w)
    | (.error e, w) => (.error (.escaped e), w)

end CommandShell
