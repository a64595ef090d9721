import CommandShell.Programs.Script.Letters
import CommandShell.Programs.Script.Variables

/-!
# Jobs and signals

A script sends signals to itself and to its jobs, answers those that come to it, shows its jobs and
waits for them.
-/
namespace CommandShell.Script.Builtin
open Bytes

/-! ## Jobs -/

/-- The job that a word with a percent sign stands for. -/
def jobOf (word : Chars) (s : State) : Except String Background :=
  let found (job : Option Background) (otherwise : String) : Except String Background :=
    match job with
    | some j => .ok j
    | none => .error otherwise
  let name := word.drop 1
  if word.head? ≠ some '%' then .error s!"No such job: {textOf word}"
  else if name = [] ∨ name = ['+'] ∨ name = ['%'] then found s.jobs.head? "No current job"
  else if name = ['-'] then found s.jobs[1]? "No previous job"
  else if name.all Char.isDigit then
    found (s.jobs.find? (·.slot = readDigits name)) s!"No such job: {textOf word}"
  else .error s!"No such job: {textOf word}"

/-- How wide the first part of the line of a job is. -/
def jobWidth : Nat := 33

/-- A job as it is shown among the others; `letters` are the options that say how. -/
def jobLine (l : Letters) (s : State) (j : Background) : String :=
  if l.last? = some 'p' then toString j.number
  else
    let sign := if (s.jobs.head?.map (·.number)) = some j.number then '+'
      else if (s.jobs[1]?.map (·.number)) = some j.number then '-'
      else ' '
    let state := match j.ended with
      | none => "Running"
      | some e => e.shown
    let number := if l.last? = some 'l' then s!"{j.number} " else ""
    let head := s!"[{j.slot}] {sign} {number}{state}"
    let pad := String.ofList (List.replicate (max 1 (jobWidth - head.length)) ' ')
    head ++ pad ++ String.join (List.replicate (j.stages - 1) " | ")

/-- Shows jobs; one that has ended is forgotten once it has been shown. -/
def jobs : Builtin := withLetters "lp" fun l s => do
  let s := s.collect
  let chosen ← if l.operands = [] then pure s.jobs else l.operands.mapM fun word => jobOf word s
  return chosen.foldl (fun s j =>
    let s := s.print (jobLine l s j)
    let isTold := j.ended.isSome && l.last? ≠ some 'p'
    if isTold then { s with jobs := s.jobs.filter (·.number ≠ j.number) } else s) s.succeed

/-- Jobs are not brought to the front or back without a terminal. -/
def moveJob : Builtin := withLetters "" fun l s => do
  match l.operands with
  | [] =>
    if s.jobs.isEmpty then throw "No current job"
    else throw "job (null) not created under job control"
  | word :: _ =>
    let _ ← jobOf word s
    throw s!"job {textOf word} not created under job control"

def waitFor (j : Background) (s : State) : State :=
  let s := s.settle (some (State.later j.due s.shared.elapsed))
  match s.jobs.find? (·.number = j.number) with
  | none => s
  | some now =>
    let ended := now.ended.getD (.exited 0)
    let said := if now.known then "" else ended.announcement
    let s := s.collect.changeJob j.number fun j => { j with waited := true }
    (if said = "" then s else s.report (said ++ "\n")).ends ended.status

def wait : Builtin := withLetters "" fun l s =>
  match l.operands with
  | [] =>
    let s := (s.settle none).collect
    .ok { s.succeed with jobs := s.jobs.map fun j => { j with waited := true } }
  | words =>
    words.foldlM (fun (s : State) word => do
      if word.head? = some '%' then return waitFor (← jobOf word s) s
      else
        let n ← number word
        match s.jobs.find? (·.number = n) with
        | none => return s
        | some j => return waitFor j s) (s.ends 127)

/-! ## Signals -/

/-- Sends a signal to the script itself. A shell that the script has started goes on. -/
def receive (signal : Nat) (s : State) : State :=
  let end_ : State :=
    if s.inner then { s with shared := { s.shared with fatal := some signal } }
    else { s with flow := .killed signal }
  if Signal.stubborn.contains signal then end_
  else if signal = 0 ∨ s.world.ignored.contains signal then s
  else
    match (if s.inner then s.outerTraps else s.traps).lookup signal with
    | some [] => s
    | some _ => { s with shared := { s.shared with arrived := s.shared.arrived ++ [signal] } }
    | none => if Signal.harmless.contains signal then s else end_

/-- Sends a signal to a job; none if there is no such job, or if it is known to have ended. -/
def sendTo (signal number : Nat) (s : State) : Option State :=
  if number = ownNumber then some (receive signal s)
  else if s.jobs.any fun j => j.number = number && !j.known then
    let stops : Bool := signal ≠ 0 ∧ ¬ Signal.harmless.contains signal
    some (s.changeJob number fun j =>
      if stops && j.ended.isNone then { j with work := none, ended := some (.killed signal) }
      else j)
  else none

def killUsage : String :=
  "Usage: kill [-s sigspec | -signum | -sigspec] [pid | job]... or\nkill -l [exitstatus]"

/-- Sends a signal to programs by their numbers. Jobs cannot be reached as such. -/
def sendAll (signal : Nat) (targets : List Chars) (s : State) : Except String State :=
  let missed (s : State) : State := (s.complain "No such process\n").ends 1
  targets.foldlM (fun (s : State) target => do
    match target with
    | '%' :: _ =>
      let _ ← jobOf target s
      return missed s
    | '-' :: target =>
      let _ ← number target
      return missed s
    | target => return (sendTo signal (← number target) s).getD (missed s)) s.succeed

/-- Lists the signals, or names one by its number or by the status that it leaves. -/
def listSignals (words : List Chars) (s : State) : Except String State := do
  match words with
  | [] =>
    let names := (List.range Signal.last).map fun n => Signal.scriptName (n + 1)
    return ("0" :: names).foldl (fun s name => s.print name) s.succeed
  | word :: _ =>
    let n ← number word
    let n := if 128 < n then n - 128 else n
    if 0 < n ∧ n ≤ Signal.last then return s.succeed.print (Signal.scriptName n)
    else throw s!"invalid signal number or exit status: {textOf word}"

def kill : Builtin := fun args s => do
  let direct := match args with
    | ('-' :: name) :: _ => Signal.scriptNumber? 1 (textOf name)
    | _ => none
  match direct with
  | some signal =>
    if args.length < 2 then throw killUsage else sendAll signal (args.drop 1) s
  | none =>
    let l ← Letters.read "ls:".toList args
    let signal ← l.given.foldlM (fun (found : Option Nat) e => do
      if e.1 = 's' then
        match Signal.scriptNumber? 1 (textOf e.2) with
        | some n => return some n
        | none => throw s!"invalid signal number or name: {textOf e.2}"
      else return found) none
    match l.has 'l', signal with
    | true, none => listSignals l.operands s
    | true, some _ => throw killUsage
    | false, signal =>
      if l.operands = [] then throw killUsage
      else sendAll (signal.getD 15) l.operands s

/-- Sets what signals are answered with, up to the first word that is none. -/
def setTraps (action : Option Chars) : List Chars → State → State
  | [], s => s
  | name :: rest, s =>
    match Signal.scriptNumber? 0 (textOf name) with
    | none => (s.report s!"trap: {textOf name}: bad trap\n").ends 1
    | some n =>
      let others := s.traps.filter (·.1 ≠ n)
      setTraps action rest { s with traps := match action with
        | none => others
        | some action => others ++ [(n, action)] }

def trap : Builtin := withLetters "" fun l s =>
  let isNumber (word : Chars) : Bool :=
    Signal.isNumber (textOf word) && (Signal.ofDigits? (textOf word)).isSome
  match l.operands with
  | [] =>
    let sorted := s.traps.mergeSort fun a b => a.1 ≤ b.1
    .ok (s.succeed.write (concat (sorted.map fun (n, action) =>
      charBytes ("trap -- ".toList ++ quotedValue action ++
        ' ' :: (Signal.scriptName n).toList ++ ['\n']))))
  | [name] => .ok (setTraps none [name] s.succeed)
  | action :: names =>
    .ok (if isNumber action then setTraps none (action :: names) s.succeed
      else setTraps (if action = ['-'] then none else some action) names s.succeed)

end CommandShell.Script.Builtin
