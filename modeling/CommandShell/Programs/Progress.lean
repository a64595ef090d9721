import CommandShell.Programs.Naming
import CommandShell.Programs.Options

/-!
# Tools that work step by step

A tool that treats one operand after the other goes on after one at which it fails. How far it has
come is the world it leaves, what it has written, the status with which it would end, and what is
left of its input, from which it may take answers to questions.
-/
namespace CommandShell
open Bytes

structure Progress where
  tool : String
  world : World
  /-- What has been written, the newest first. -/
  written : List Written
  status : Int
  unread : ByteArray

namespace Progress

def start (job : Job) (w : World) : Progress := ⟨job.name, w, [], 0, job.input.bytes⟩

def finish (p : Progress) : ToolEnd × World := (⟨p.written.reverse, p.status, p.unread⟩, p.world)

def write (bytes : ByteArray) (p : Progress) : Progress :=
  { p with written := ⟨false, bytes⟩ :: p.written }

def print (line : String) (p : Progress) : Progress := p.write (ofText (line ++ "\n"))

def announce (line : String) (p : Progress) : Progress := p.print s!"{p.tool}: {line}"

def report (text : String) (p : Progress) : Progress :=
  { p with written := ⟨true, ofText text⟩ :: p.written }

def warn (line : String) (p : Progress) : Progress := p.report s!"{p.tool}: {line}\n"

def complain (line : String) (p : Progress) : Progress := { p.warn line with status := 1 }

def fault (what : String) (fault : FileFault) (p : Progress) : Progress :=
  p.complain s!"{what}: {fault.wording}"

/-- Asks a question; a line of the input that starts with the letter for yes is consent. -/
def ask (question : String) (p : Progress) : Bool × Progress :=
  let p := p.report s!"{p.tool}: {question}? "
  match chunks p.unread with
  | [] => (false, p)
  | line :: rest => (line.head? = some 121 ∨ line.head? = some 89, { p with unread := join rest })

def into (w : World) (p : Progress) : Progress := { p with world := w }

end Progress

namespace Tool

/-- A tool that treats its operands one after the other, of which it needs at least one. -/
def onOperands (table : OptionTable) (step : Options → String → Progress → Progress) : Tool :=
  .withOptions table 1 fun o job w =>
    if o.operands = [] then (misused job "missing operand" 1, w)
    else (o.operands.foldl (fun p name => step o name p) (.start job w)).finish

end Tool

/-! ## Names as texts -/

namespace NameText

/-- The text without slashes at its end; a text of slashes keeps one. -/
def trimmed (s : String) : String :=
  let kept := s.toList.reverse.dropWhile Path.isSlash
  if kept = [] then (if s = "" then "" else "/") else String.ofList kept.reverse

/-- The last name of a text, without slashes behind it. -/
def last (s : String) : String :=
  let cs := (trimmed s).toList.reverse
  let name := cs.takeWhile (!Path.isSlash ·)
  if name = [] then trimmed s else String.ofList name.reverse

def above (s : String) : String :=
  let back := (s.toList.reverse.dropWhile Path.isSlash).dropWhile (!Path.isSlash ·)
  match back, back.dropWhile Path.isSlash with
  | [], _ => if s.toList.head? = some '/' then "/" else "."
  | _, [] => "/"
  | _, kept => String.ofList kept.reverse

def joined (folder name : String) : String :=
  if folder.toList.getLast? = some '/' then folder ++ name else folder ++ "/" ++ name

def endsInSlash (s : String) : Bool := s.toList.getLast? == some '/'

/-- Whether a text ends in a name for the folder itself or for the one above. -/
def endsInDots (s : String) : Bool := last s == "." || last s == ".."

end NameText
end CommandShell
