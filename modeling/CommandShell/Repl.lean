import CommandShell.Completion
import CommandShell.History
import CommandShell.LineEditor
import CommandShell.Settings
import CommandShell.Shell
import CommandShell.Usage

/-!
# The interactive loop

At start-up the settings are read, the history file is prepared and loaded and the line editor is
set up. Then each prompt is answered by a line, an interrupt or the end of input. A line is recorded
and stored before it is run.
-/
namespace CommandShell
open Text

/-- What comes back from a prompt; the end of input comes when there are no more events. -/
inductive Event
  | line (text : String)
  | interrupt
  deriving DecidableEq, Repr

/-- What the loop is started with. -/
structure Host where
  spawner : Spawner
  environment : Settings.Environment
  editor : Editor
  /-- Whether the output is a terminal, on which the prompt is coloured. -/
  terminal : Bool

/-- The loop between two prompts. What it prints to its output is printed in the world; `err` is
what it has reported. -/
structure Repl where
  run : Run
  history : History
  store : Option Path
  recalled : List String
  err : String

/-- How the loop ends. -/
inductive ReplEnd
  | exited (code : Int)
  | homeless (fault : HomeFault)
  | failed (escape : Escape)
  deriving DecidableEq, Repr

namespace Repl

def world (s : Repl) : World := s.run.world

def print (s : Repl) (text : String) : Repl :=
  { s with run := { s.run with world := s.run.world.print text } }

def report (s : Repl) (text : String) : Repl := { s with err := s.err ++ text }

def level (settings : Settings) : Level := if settings.debug then .debug else .warning

def note (settings : Settings) (notes : List Note) (s : Repl) : Repl :=
  s.report (Note.report (level settings) notes)

def edit (host : Host) (requests : List Editor.Request) (s : Repl) : Except Escape Unit × Repl :=
  let (done, recalled) := host.editor.perform s.recalled requests
  (done, { s with recalled })

/-- Loads the history into a loop whose file has been prepared or is done without. -/
def openHistory (settings : Settings) (s : Repl) : Except Escape Unit × Repl :=
  match s.world.ensureFile settings.historyPath with
  | (.error e, w) => (.error e, { s with run := { s.run with world := w } })
  | (.ok (usable, notes), w) =>
    let s := note settings notes { s with run := { s.run with world := w } }
    match settings.historyPath with
    | none => (.ok (), s)
    | some path =>
      if usable then
        match w.loadLines path with
        | .error e => (.error e, s)
        | .ok (lines, notes) =>
          (.ok (), note settings notes
            { s with history := .ofLines lines History.usualLimit, store := some path })
      else (.ok (), s)

/-- Sets the editor up with the lines of the history. -/
def setupEditor (host : Host) (settings : Settings) (s : Repl) : Except Escape Unit × Repl :=
  let (done, s) := edit host (host.editor.setup s.history.lines) s
  (done, note settings host.editor.notes s)

/-- The prompt names the working folder. -/
def prompt (host : Host) (settings : Settings) (s : Repl) : Option String :=
  s.world.folderText.map fun folder =>
    let text := folder ++ " " ++ settings.prompt
    if host.terminal then colourPrompt text else text

/-- Stores the history; a host error is reported and nothing more. -/
def save (settings : Settings) (s : Repl) : Except Escape Unit × Repl :=
  match s.store with
  | none => (.ok (), s)
  | some path =>
    match s.world.saveLines path s.history.lines with
    | (.ok (), w) => (.ok (), { s with run := { s.run with world := w } })
    | (.error (.system e), w) =>
      (.ok (), note settings [.historyUnsaved e.message]
        { s with run := { s.run with world := w } })
    | (.error e, w) => (.error e, { s with run := { s.run with world := w } })

/-- Records a line in the history, in the editor and in the file. -/
def record (host : Host) (settings : Settings) (line : String) (s : Repl) :
    Except Escape Unit × Repl :=
  match s.history.add line with
  | (false, _) => (.ok (), s)
  | (true, history) =>
    match edit host (host.editor.record (trim line)) { s with history } with
    | (.error e, s) => (.error e, s)
    | (.ok (), s) => save settings s

/-- The builtins as they see the history of this moment. -/
def registry (s : Repl) : Registry Handler :=
  Builtin.handlers Builtin.usualAliases (some s.history.lines) .quit

/-- Shows what a line gave back; output that does not end a line is followed by a line feed. -/
def present (result : Result) (s : Repl) : Repl :=
  let s := if result.stdout = "" then s
    else s.print (if result.stdout.toList.getLast? = some '\n' then result.stdout
      else result.stdout ++ "\n")
  s.report result.stderr

def runLine (host : Host) (settings : Settings) (line : String) (s : Repl) :
    Option ReplEnd × Repl :=
  let (outcome, run) :=
    CommandShell.runLine s.registry host.spawner line { s.run with trace := [] }
  let s := note settings (run.trace.filterMap Action.note?) { s with run }
  match outcome with
  | .finished result => (none, s.present result)
  | .left .interrupt => (none, s.print "^C\n")
  | .left (.exit code) => (some (.exited code), s)
  | .left e => (some (.failed e), s)

def answer (host : Host) (settings : Settings) (s : Repl) : Event → Option ReplEnd × Repl
  | .interrupt => (none, s.print "^C\n")
  | .line line =>
    if isBlankLine line then (none, s)
    else
      match record host settings line s with
      | (.error e, s) => (some (.failed e), s)
      | (.ok (), s) => runLine host settings line s

/-- What a prompt fails with when the working folder is gone. -/
def folderGone : Escape := .system (.file .notFound none)

def ask (host : Host) (settings : Settings) (s : Repl) : Except ReplEnd Repl :=
  match s.prompt host settings with
  | none => .error (.failed folderGone)
  | some prompt => .ok (s.print prompt)

def close (s : Repl) : ReplEnd × Repl := (.exited 0, s.print "Exiting!\n")

/-- Shows a prompt and answers it, over and over. -/
def loop (host : Host) (settings : Settings) (s : Repl) : List Event → ReplEnd × Repl
  | [] =>
    match s.ask host settings with
    | .error ended => (ended, s)
    | .ok s => s.close
  | event :: rest =>
    match s.ask host settings with
    | .error ended => (ended, s)
    | .ok s =>
      match answer host settings s event with
      | (some ended, s) => (ended, s)
      | (none, s) => s.loop host settings rest

def before (w : World) (recalled : List String) : Repl :=
  ⟨.begin w, .ofLines [] History.usualLimit, none, recalled, ""⟩

/-- Opens the history, sets the editor up and shows the banner. -/
def start (host : Host) (settings : Settings) (s : Repl) : Except ReplEnd Settings × Repl :=
  match openHistory settings s with
  | (.error e, s) => (.error (.failed e), s)
  | (.ok (), s) =>
    match setupEditor host settings s with
    | (.error e, s) => (.error (.failed e), s)
    | (.ok (), s) => (.ok settings, s.print (settings.banner ++ "\n"))

/-- Gets ready for the first prompt, if the arguments and the environment allow it. -/
def ready (host : Host) (args : List String) (s : Repl) : Except ReplEnd Settings × Repl :=
  match Usage.read args with
  | .help => (.error (.exited 0), s.print Usage.helpPage)
  | .refuse reason => (.error (.exited Usage.refusedCode), s.report (Usage.complaint reason))
  | .start =>
    match Settings.load s.world.homes host.environment with
    | .error fault => (.error (.homeless fault), s)
    | .ok settings => start host settings s

/-- The whole program, from its arguments on. -/
def main (host : Host) (args : List String) (s : Repl) (events : List Event) : ReplEnd × Repl :=
  match ready host args s with
  | (.error ended, s) => (ended, s)
  | (.ok settings, s) => s.loop host settings events

end Repl
end CommandShell
