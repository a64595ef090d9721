import CommandShell.Builtin
import CommandShell.Syntax.Parser

/-!
# Running a line

A line is cut into words, read as a tree, flattened into a pipeline and run. A line without words
does nothing, and a line that is refused on the way does nothing but say so.
-/
namespace CommandShell
open Text

def lineRefused : Int := 2

def refused (message : String) : Outcome := .finished ⟨"", message ++ "\n", lineRefused⟩

def runTree (reg : Registry Handler) (spawner : Spawner) (tree : Node) (r : Run) : Outcome × Run :=
  match Pipeline.ofNode tree with
  | .error fault => (refused fault.message, r)
  | .ok pipeline => execute reg spawner pipeline (r.logAll [.planned pipeline, .showTree tree])

def runWords (reg : Registry Handler) (spawner : Spawner) (tokens : List String) (r : Run) :
    Outcome × Run :=
  match parse tokens with
  | .error refusal => (refused refusal.message, r)
  | .ok tree => runTree reg spawner tree (r.log (.readTree tokens tree))

def runLine (reg : Registry Handler) (spawner : Spawner) (line : String) (r : Run) :
    Outcome × Run :=
  match words line with
  | [] => (.finished ⟨"", "", 0⟩, r)
  | tokens => runWords reg spawner tokens (r.log (.readWords tokens))

end CommandShell
