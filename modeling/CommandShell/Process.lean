import CommandShell.World

/-!
# Programs and builtins as the shell meets them

A spawner starts a program on a list of words and an input, and changes the world while it does.
A program is met as what it wrote and how it ended; a handler, which stands for a builtin, as how
it came back.
-/
namespace CommandShell

/-- What a program finds on its standard input. -/
inductive Stdin
  /-- Whatever the shell itself reads. -/
  | inherited
  /-- A new pipe, and all that will be written to it. -/
  | fed (bytes : ByteArray)
  /-- An opened file, and its identity if it has contents of its own. -/
  | source (identity : Option Nat) (bytes : ByteArray)
  /-- The output of a program that was started earlier. -/
  | handoff (earlier : Nat) (bytes : ByteArray)
  deriving DecidableEq

/-- The bytes to be read, where the shell's own input holds `inherited`. -/
def Stdin.bytes (inherited : ByteArray) : Stdin → ByteArray
  | .inherited => inherited
  | .fed bytes => bytes
  | .source _ bytes => bytes
  | .handoff _ bytes => bytes

/-- A started program. One without an output handle writes to nobody; read to its end, it gives the
empty output if it `collects`, else nothing that could be taken for an output. -/
structure Process where
  output : Option ByteArray
  collects : Bool
  hasInput : Bool
  status : Int
  deriving DecidableEq

namespace Process

def writing (output : ByteArray) (hasInput : Bool) (status : Int) : Process :=
  ⟨some output, true, hasInput, status⟩

/-- What has been collected when a program has been fed and read to its end. -/
def collected (p : Process) : Option ByteArray :=
  match p.output with
  | some bytes => some bytes
  | none => if p.collects then some .empty else none

end Process

/-- Why no program was started. -/
inductive SpawnFault
  | refused (program reason : String)
  | escaped (escape : Escape)
  deriving DecidableEq, Repr

def SpawnFault.message : SpawnFault → String
  | .refused program reason => s!"{program}: {reason}"
  | .escaped escape => escape.message

abbrev Spawner := List String → Stdin → World → Except SpawnFault Process × World

/-- How a call of a builtin comes back. A builtin that fails says why. One that leaves takes the
shell's control away; so does one that fails and has no words for it, with what is raised when it is
asked for them. -/
inductive HandlerEnd
  | done
  | failed (reason : String)
  | left (escape : Escape)
  deriving DecidableEq, Repr

abbrev Handler := List Path → World → HandlerEnd × World

end CommandShell
