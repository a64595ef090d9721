import CommandShell.Programs.Progress
import CommandShell.Programs.Sources
import CommandShell.Programs.Number.Real

/-!
# Waiting

Spans of time, which are waited for without anything happening.
-/
namespace CommandShell.Waiting

/-- The seconds that a letter behind a number stands for. -/
def unit? : List Char → Option Nat
  | [] => some 1
  | ['s'] => some 1
  | ['m'] => some 60
  | ['h'] => some 3600
  | ['d'] => some 86400
  | _ => none

def span? (text : String) : Option Real :=
  match Real.read? (text.toList.dropWhile Real.isSpace) with
  | some (.nan _, _) => none
  | some (x, rest) => if x.isNegative then none else (unit? rest).map fun n => x.times n
  | none => none

/-- How long a program sleeps that is started with some words. -/
def sleepOf (argv : List String) : Real :=
  match argv with
  | name :: spans =>
    if NameText.last name = "sleep" then
      spans.foldl (fun sum span => sum.add ((span? span).getD (.ofInt 0))) (.ofInt 0)
    else .ofInt 0
  | [] => .ofInt 0

def sleep : Tool := .withOptions (.of "" []) 1 fun o job w =>
  if o.operands = [] then (Tool.misused job "missing operand" 1, w)
  else
    match o.operands.filter fun text => (span? text).isNone with
    | [] => (.of [] .empty 0 job.input.bytes, w)
    | bad =>
      let reports := bad.map fun text => s!"{job.name}: invalid time interval {Naming.literal text}"
      (.of (reports ++ [s!"Try '{job.name} --help' for more information."]) .empty 1
        job.input.bytes, w)

end CommandShell.Waiting
