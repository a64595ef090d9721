import CommandShell.Journal

/-!
# The line editor

The requests that set a line editor up and keep its list of recalled lines in step with the
history. The editor is told to record nothing by itself.
-/
namespace CommandShell

/-- The line editor that the host has, if any, with its description of itself. Most editors keep
lines as texts that a null character ends, and refuse those that hold one. -/
inductive Editor
  | missing
  | present (description : String) (takesNulls : Bool)
  deriving DecidableEq, Repr

namespace Editor

inductive Request
  | setAutoHistory (on : Bool)
  | setCompleter
  | setDelimiters (delimiters : String)
  | bind (binding : String)
  | clearHistory
  | addHistory (line : String)
  deriving DecidableEq, Repr

def Request.apply (recalled : List String) : Request → List String
  | clearHistory => []
  | addHistory line => recalled ++ [line]
  | _ => recalled

/-- Only blanks separate words, so that paths are completed whole. -/
def delimiters : String := " \t\n"

/-- Whether a part stands anywhere in a text. -/
def mentions (part : List Char) : List Char → Bool
  | [] => part.isEmpty
  | c :: cs => part.isPrefixOf (c :: cs) || mentions part cs

/-- The two families of editors bind the completion key in different words. -/
def tabBinding (description : String) : String :=
  if mentions "libedit".toList description.toList then "bind ^I rl_complete" else "tab: complete"

/-- The requests that set an editor up with the lines of a history. -/
def setup (lines : List String) : Editor → List Request
  | missing => []
  | present description _ =>
    [.setAutoHistory false, .setCompleter, .setDelimiters delimiters,
      .bind (tabBinding description), .clearHistory] ++ lines.map .addHistory

def record (line : String) : Editor → List Request
  | missing => []
  | present .. => [.addHistory line]

def notes : Editor → List Note
  | missing => [.editorMissing]
  | present .. => []

/-- Whether an editor takes a line to be recalled. -/
def takes (line : String) : Editor → Bool
  | missing => true
  | present _ takesNulls => takesNulls || !line.contains '\x00'

def grants (editor : Editor) : Request → Bool
  | .addHistory line => editor.takes line
  | _ => true

/-- Goes through requests up to the first that is refused, and gives the lines that can be recalled
then. -/
def perform (editor : Editor) (recalled : List String) :
    List Request → Except Escape Unit × List String
  | [] => (.ok (), recalled)
  | request :: rest =>
    if editor.grants request then perform editor (request.apply recalled) rest
    else (.error .nullInLine, recalled)

end Editor

/-- A prompt in green; the marks around the colours tell the editor that they take no room. -/
def colourPrompt (prompt : String) : String :=
  "\x01\x1b[32m\x02" ++ prompt ++ "\x01\x1b[0m\x02"

end CommandShell
