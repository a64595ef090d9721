import CommandShell.Programs.Conditions
import CommandShell.Programs.Printing.Echo
import CommandShell.Programs.Printing.Printf
import CommandShell.Programs.Script.Folders
import CommandShell.Programs.Script.Jobs
import CommandShell.Programs.Script.Settings

/-!
# What scripts do themselves

The commands that start no program and run no others. One that fails with a complaint ends the
script if it is among the special ones.
-/
namespace CommandShell.Script
open Bytes

namespace Builtin

def succeed : Builtin := fun _ s => .ok s.succeed

def echo : Builtin := fun args s => .ok (s.succeed.write (Echo.scripted args))

/-- Writes what was written under a name, with the complaints as the script's own, which come
first. -/
def passOn (name : String) (written : List Written) (s : State) : State :=
  let said := (written.filter (·.reported)).map fun w =>
    textOf (((charsOf w.bytes).filter (· != '\n')).drop (name.length + 2))
  let output := concat ((written.filter (!·.reported)).map Written.bytes)
  (said.foldl State.complain s).write output

def printf : Builtin := withLetters "" fun l s =>
  match l.operands with
  | [] => .error "usage: printf format [arg ...]"
  | format :: args =>
    let done := Printf.run .script format args
    let after := passOn "printf" done.written.reverse s.succeed
    .ok (if after.status = 0 then after.ends done.status.toNat else after)

def holds (words : List Chars) (s : State) : Except String State := do
  return s.ends (if ← Conditions.Scripted.holds s.world (words.map textOf) then 0 else 1)

def test : Builtin := holds

def bracket : Builtin := fun args s =>
  match Conditions.unbracketed (args.map textOf) with
  | none => .error "missing ]"
  | some _ => holds args.dropLast s

/-! ## Flow -/

def exit : Builtin := fun args s => do
  match args with
  | [] => return { s with flow := .leaving s.status }
  | word :: _ => return { s with flow := .leaving (← number word) }

def return_ : Builtin := fun args s => do
  match args with
  | [] => return { s with flow := .returning }
  | word :: _ => return { s with flow := .returning, status := ← number word }

/-- Leaves loops, or goes to the next round of one. -/
def leaveLoops (again : Bool) : Builtin := fun args s => do
  let n ← match args with
    | [] => pure 1
    | word :: _ => number word
  if n = 0 then throw s!"Illegal number: {textOf (args.headD [])}"
  let levels := min n s.loops
  return { s with status := 0, flow := if levels = 0 then s.flow else .breaking again levels }

def times : Builtin := fun _ s =>
  .ok ((s.succeed.print "0m0.000000s 0m0.000000s").print "0m0.000000s 0m0.000000s")

end Builtin

/-- The commands that a script runs itself and that start no other. -/
def builtin? (name : String) : Option Builtin :=
  match name with
  | ":" => some Builtin.succeed
  | "true" => some Builtin.succeed
  | "false" => some fun _ s => .ok (s.ends 1)
  | "echo" => some Builtin.echo
  | "printf" => some Builtin.printf
  | "test" => some Builtin.test
  | "[" => some Builtin.bracket
  | "cd" => some Builtin.cd
  | "chdir" => some Builtin.cd
  | "pwd" => some Builtin.pwd
  | "export" => some Builtin.exportAll
  | "readonly" => some Builtin.readonly
  | "unset" => some Builtin.unset
  | "local" => some Builtin.local_
  | "set" => some Builtin.set_
  | "shift" => some Builtin.shift
  | "read" => some Builtin.read
  | "kill" => some Builtin.kill
  | "wait" => some Builtin.wait
  | "trap" => some Builtin.trap
  | "exit" => some Builtin.exit
  | "return" => some Builtin.return_
  | "break" => some (Builtin.leaveLoops false)
  | "continue" => some (Builtin.leaveLoops true)
  | "getopts" => some Builtin.getopts
  | "umask" => some Builtin.umask
  | "times" => some Builtin.times
  | "ulimit" => some Builtin.ulimit
  | "jobs" => some Builtin.jobs
  | "alias" => some Builtin.alias_
  | "unalias" => some Builtin.unalias
  | "bg" => some Builtin.moveJob
  | "fg" => some Builtin.moveJob
  | _ => none

/-- The commands that run others, or look for them. -/
def runners : List String := [".", "command", "eval", "exec", "hash", "type"]

def isBuiltin (name : String) : Bool := (builtin? name).isSome || runners.contains name

end CommandShell.Script
