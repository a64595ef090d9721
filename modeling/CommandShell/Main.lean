import CommandShell.Programs.Standard
import CommandShell.Repl

/-!
# The command line

The shell with the standard toolbox, over a world of its own that begins with a few folders. Lines
are read from the standard input; the environment gives the home folder and the settings.
-/
namespace CommandShell.CommandLine

def watched : List String := ["HOME", "XDG_CONFIG_HOME", "PIPESHELL_HISTORY", "PIPESHELL_DEBUG"]

def foldersTo (l : Location) : List Location := (List.range l.length).map fun n => l.take (n + 1)

/-- A world with a home folder, in which it starts, and a device that is always empty. -/
def initialWorld (home : Option String) : World :=
  let start := (Path.ofString (home.getD "/")).parts
  let folders := foldersTo start ++ [["bin"], ["dev"], ["tmp"], ["usr"], ["usr", "bin"]]
  let files := folders.foldl (fun t l => t.set l .usualFolder)
    (.ofEntries [(["dev", "null"], .device .null)])
  { files, place := ⟨start, 0⟩, waiting := [], mask := 0o022, ignored := [],
    homes := ⟨home, none, []⟩, printed := "" }

def readEnvironment : IO Settings.Environment := do
  let found ← watched.mapM fun name => do return (name, ← IO.getEnv name)
  return found.filterMap fun e => e.2.map fun value => (e.1, value)

/-- Writes what the shell has printed and reported since the last time. -/
def flush (s : Repl) : IO Repl := do
  let out ← IO.getStdout
  out.putStr s.world.printed
  out.flush
  (← IO.getStderr).putStr s.err
  let world := { s.world with printed := "" }
  return { s with run := { s.run with world }, err := "" }

def withoutLineEnd (line : String) : String :=
  if line.toList.getLast? = some '\n' then String.ofList line.toList.dropLast else line

/-- Answers one prompt after the other until the shell ends. -/
partial def answerAll (host : Host) (settings : Settings) (s : Repl) : IO (ReplEnd × Repl) := do
  match s.ask host settings with
  | .error ended => return (ended, s)
  | .ok s =>
    let s ← flush s
    let line ← (← IO.getStdin).getLine
    if line.isEmpty then return s.close
    match Repl.answer host settings s (.line (withoutLineEnd line)) with
    | (some ended, s) => return (ended, s)
    | (none, s) => answerAll host settings s

/-- What is said about an end that is no plain exit, and the code that the program ends with. -/
def verdict : ReplEnd → String × Int
  | .exited code => ("", code)
  | .homeless fault => (fault.message ++ "\n", 1)
  | .failed (.exit code) => ("", code)
  | .failed e => (e.message ++ "\n", 1)

def run (args : List String) : IO UInt32 := do
  let environment ← readEnvironment
  let host : Host := ⟨Standard.spawner environment, environment, .missing, false⟩
  let (ready, s) := Repl.ready host args (.before (initialWorld (environment.lookup "HOME")) [])
  let (ended, s) ← match ready with
    | .error ended => pure (ended, s)
    | .ok settings => answerAll host settings s
  let (complaint, code) := verdict ended
  let _ ← flush (s.report complaint)
  return UInt32.ofNat (code % 256).toNat

end CommandShell.CommandLine

def main (args : List String) : IO UInt32 := CommandShell.CommandLine.run args
