import CommandShell.Process
import CommandShell.Programs.Bytes
import CommandShell.Programs.Following

/-!
# Toolboxes

A tool is a program known by its name. It is given words, variables and an input, may change the
world, writes to its output and to its reports, and ends with a status.
-/
namespace CommandShell

/-- What stands behind an input. -/
inductive InputKind
  /-- The device that is always empty. -/
  | nothing
  | pipe
  | file (identity : Nat)
  deriving DecidableEq, Repr

structure Input where
  kind : InputKind
  bytes : ByteArray

/-- What is left of an input after files have changed: a file is read on from where its reader
stands. -/
def Input.after (input : Input) (before now : FileTree) : Input :=
  match input.kind with
  | .file identity =>
    let start := (before.contentsOf identity).size - input.bytes.size
    let bytes := now.contentsOf identity
    { input with bytes := Bytes.slice bytes start bytes.size }
  | _ => input

/-- What a tool is started with: the name by which it was called, the words behind it, the variables
of its surroundings, its input, and the identity of the file that takes its output, if one does. -/
structure Job where
  name : String
  args : List String
  environment : List (String × String)
  input : Input
  target : Option Nat

/-- Bytes that were written at one go, to the output or to the reports. -/
structure Written where
  reported : Bool
  bytes : ByteArray

/-- What a tool leaves behind. -/
structure ToolEnd where
  written : List Written
  status : Int
  /-- What it leaves of its input to the next one that reads it. -/
  unread : ByteArray

abbrev Tool := Job → World → ToolEnd × World

namespace ToolEnd

def output (e : ToolEnd) : ByteArray :=
  Bytes.concat ((e.written.filter (!·.reported)).map Written.bytes)

/-- The end of a tool that writes its reports before its output. -/
def of (reports : List String) (output : ByteArray) (status : Int) (unread : ByteArray) : ToolEnd :=
  let said := reports.map fun r => (⟨true, Bytes.ofText (r ++ "\n")⟩ : Written)
  ⟨if output.isEmpty then said else said ++ [⟨false, output⟩], status, unread⟩

end ToolEnd

namespace Tool

/-- A tool that turns its input into its output and leaves the world alone. -/
def filter (f : List String → ByteArray → ByteArray) : Tool :=
  fun job w => (.of [] (f job.args job.input.bytes) 0 .empty, w)

/-- A tool that answers to its arguments alone and does not read its input. -/
def answer (f : List String → List String × ByteArray × Int) : Tool := fun job w =>
  let (reports, output, status) := f job.args
  (.of reports output status job.input.bytes, w)

end Tool

def Stdin.kind : Stdin → InputKind
  | .inherited => .nothing
  | .fed _ => .pipe
  | .source (some identity) _ => .file identity
  | .source none _ => .nothing
  | .handoff .. => .pipe

/-- What a program finds on its standard input; the shell's own input is empty. -/
def Stdin.input (stdin : Stdin) : Input := ⟨stdin.kind, stdin.bytes .empty⟩

/-- A tool's end as the shell meets it. The shell holds an input handle only for a pipe of its
own. -/
def Process.ofTool (stdin : Stdin) (e : ToolEnd) : Process :=
  let hasInput := match stdin with
    | .fed _ => true
    | _ => false
  .writing e.output hasInput e.status

def readDigits (digits : List Char) : Nat :=
  digits.foldl (fun n c => 10 * n + (c.toNat - 48)) 0

/-- The number that a text of decimal digits stands for, with a minus sign if there is one. -/
def readInt (s : String) : Int :=
  match s.toList with
  | '-' :: digits => -(readDigits digits : Int)
  | digits => readDigits digits

end CommandShell
