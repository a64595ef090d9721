import CommandShell.Record
import CommandShell.Run
import CommandShell.Syntax.Format

/-!
# The journal

Notes that the shell takes for whoever looks after it: warnings about the history file, and at the
level of detail every step that a line goes through. A note names the part that took it.
-/
namespace CommandShell
open Text

inductive Level
  | debug
  | warning
  deriving DecidableEq, Repr

def Level.text : Level → String
  | debug => "DEBUG"
  | warning => "WARNING"

structure Note where
  origin : String
  level : Level
  message : String
  deriving DecidableEq, Repr

namespace Note

def line (n : Note) : String := s!"[{n.origin}] {n.level.text}: {n.message}\n"

/-- The lines of the notes that are taken at a level and above. -/
def report (level : Level) (notes : List Note) : String :=
  String.join ((notes.filter fun n => level = .debug ∨ n.level = .warning).map line)

def historyUnreadable (path : Path) (reason : String) : Note :=
  ⟨"pipeshell.history", .warning, s!"could not read history from {path}: {reason}"⟩

def historyUnsaved (reason : String) : Note :=
  ⟨"pipeshell.cli", .warning, s!"could not save history: {reason}"⟩

def folderUnknown : Note :=
  ⟨"pipeshell.config", .warning, "could not find a configuration folder; history is disabled"⟩

def uncreatable (path : Path) (reason : String) : Note :=
  ⟨"pipeshell.config", .warning, s!"could not create {path} ({reason}); history is disabled"⟩

def editorMissing : Note :=
  ⟨"pipeshell.line_editor", .debug, "readline unavailable; line editing disabled"⟩

end Note

/-- The note that an action leaves; handles and files are wired without a word. -/
def Action.note? : Action → Option Note
  | readWords tokens => some ⟨"pipeshell.shell.core", .debug, s!"tokens: {quotedAll tokens}"⟩
  | readTree tokens tree =>
    some ⟨"pipeshell.shell_parser", .debug, s!"parsed {quotedAll tokens} into {tree.record}"⟩
  | planned pipeline => some ⟨"pipeshell.plan", .debug, s!"built pipeline {pipeline.record}"⟩
  | showTree tree => some ⟨"pipeshell.shell.core", .debug, "parse tree:\n" ++ tree.format 0⟩
  | execute stages =>
    some ⟨"pipeshell.shell.executor", .debug,
      s!"executing {stages.length} stage(s): " ++ Record.list (stages.map Stage.record)⟩
  | call name args =>
    some ⟨"pipeshell.shell.executor", .debug, s!"running builtin {name} with {quotedAll args}"⟩
  | deliver length targets =>
    some ⟨"pipeshell.shell.executor", .debug,
      s!"writing {length} chars to " ++ Record.row (targets.map Path.record)⟩
  | _ => none

end CommandShell
