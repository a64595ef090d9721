import CommandShell.Programs.Toolbox

/-!
# Starting programs

A program is started by the path of its file. Who knows only its name tries the name in one folder
after the other; which of the faults that are met on the way counts in the end is up to them.
-/
namespace CommandShell

/-- Whether a fault says that nothing stands where a path leads. -/
def FileFault.isMissing : FileFault → Bool
  | .notFound => true
  | .notFolder => true
  | _ => false

/-- A way to start programs. -/
structure Launcher where
  /-- Whether a path leads to something that can be started, and why not. -/
  check : World → String → Except FileFault Unit
  /-- Starts what a path leads to, or says why that cannot be done. -/
  start : String → Job → World → Except FileFault ToolEnd × World

namespace Launching

/-- The paths by which a program may be found in folders with colons between them. An empty folder
is the working folder; a word with a slash in it is a path itself. -/
def pathsOf (folders word : String) : List String :=
  if word.toList.contains '/' then [word]
  else (folders.splitOn ":").map fun folder =>
    if folder = "" then word else folder ++ "/" ++ word

/-- Tries one path after the other, as long as the faults let that go on. If no path can be started,
these are the faults that were met. -/
def tryPaths (start : String → World → Except FileFault ToolEnd × World)
    (goesOn : FileFault → Bool) : List String → World → Except (List FileFault) ToolEnd × World
  | [], w => (.error [], w)
  | path :: rest, w =>
    match start path w with
    | (.ok e, w) => (.ok e, w)
    | (.error fault, w) =>
      if goesOn fault then
        match tryPaths start goesOn rest w with
        | (.error faults, w) => (.error (fault :: faults), w)
        | (.ok e, w) => (.ok e, w)
      else (.error [fault], w)

def scriptTool : String := "/bin/sh"

/-- Starts what a path leads to; a file that does not say how it is started is a script. -/
def startOrRead (l : Launcher) (job : Job) (path : String) (w : World) :
    Except FileFault ToolEnd × World :=
  match l.start path job w with
  | (.error .badFormat, w) =>
    l.start scriptTool { job with name := scriptTool, args := path :: job.args } w
  | found => found

end Launching
end CommandShell
