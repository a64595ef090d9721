import CommandShell.Execution
import CommandShell.Text.Aligned

/-!
# The builtins of the shell

Leaving, clearing the screen, help, the history, and moving between folders. Builtins print to the
shell's own output, not to the output of a pipeline.
-/
namespace CommandShell
open Text

inductive Builtin
  | leave
  | clear
  | help
  | history
  | changeFolder
  deriving DecidableEq, Repr

/-- Whether leaving ends the shell, or is only taken note of. -/
inductive LeavePolicy
  | quit
  | carryOn
  deriving DecidableEq, Repr

/-- What the builtins of a shell refer to. A shell may have no history at all. -/
structure Surroundings where
  registry : Registry Builtin
  history : Option (List String)
  policy : LeavePolicy

namespace Builtin

/-- The builtins in the order in which they are announced. -/
def catalog : Catalog Builtin :=
  [⟨"exit", leave, "Leave the shell"⟩,
    ⟨"clear", clear, "Clear the terminal screen"⟩,
    ⟨"help", help, "Show builtins and aliases"⟩,
    ⟨"history", history, "Show previously entered lines"⟩,
    ⟨"cd", changeFolder, "Change the working directory"⟩,
    ⟨"cf", changeFolder, "Change folder (same as cd)"⟩]

def usualAliases : Table String :=
  [("list", "ls"), ("show", "cat"), ("remove", "rm"), ("removef", "rm -r"), ("create", "touch"),
    ("createf", "mkdir")]

/-- The registry of a shell that is given aliases alone. -/
def registry (aliases : Table String) : Registry Builtin := catalog.freeze aliases

def clearScreen : String := "\x1b[2J\x1b[H"

/-- A builtin with its description, if it has one. -/
def helpLine {β : Type} (r : Registry β) (name : String) : String :=
  let described := r.describe name
  if described = "" then "  " ++ name else "  " ++ name ++ " - " ++ described

/-- The names that a registry knows, each with its description. -/
def helpText {β : Type} (r : Registry β) : String :=
  String.intercalate "\n" (["Builtins:"] ++ r.builtinNames.map (helpLine r) ++ ["Aliases:"] ++
    r.aliasNames.map (fun name => "  " ++ name ++ " - " ++ r.describe name) ++
    ["Anything else is run as an external program."])

/-- The lines of a history with their numbers, counted from one. -/
def historyText (lines : List String) : String :=
  unlines ((lines.zipIdx 1).map fun e => aligned 5 e.2 ++ "  " ++ e.1)

def moveTo (target : Path) (w : World) : HandlerEnd × World :=
  match w.isFolder target with
  | .error e => (.failed e.message, w)
  | .ok true =>
    match w.enter target with
    | .ok w => (.done, w)
    | .error e => (.done, w.say s!"Failed to change folder with error: {e.message}")
  | .ok false =>
    match w.isFile target with
    | .error e => (.failed e.message, w)
    | .ok true => (.done, w.say s!"\"{target}\" is a file not a directory")
    | .ok false => (.done, w.say s!"\"{target}\" no such file or directory")

/-- What a builtin does. Only the builtins that move look at their arguments. -/
def handler (s : Surroundings) : Builtin → Handler
  | leave => fun _ w =>
    match s.policy with
    | .quit => (.left (.exit 0), w)
    | .carryOn => (.done, w)
  | clear => fun _ w => (.done, w.print clearScreen)
  | help => fun _ w => (.done, w.say (helpText s.registry))
  | history => fun _ w =>
    match s.history with
    | none => (.done, w.say "history is not available")
    | some lines => (.done, w.print (historyText lines))
  | changeFolder => fun paths w =>
    match paths with
    | [] => (.done, w)
    | [target] => moveTo target w
    | _ => (.done, w.say "cd: too many arguments")

def handlers (aliases : Table String) (history : Option (List String)) (policy : LeavePolicy) :
    Registry Handler :=
  (registry aliases).map fun _ b => b.handler ⟨registry aliases, history, policy⟩

end Builtin
end CommandShell
