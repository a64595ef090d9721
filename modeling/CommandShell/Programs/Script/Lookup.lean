import CommandShell.Programs.Launching.Basic
import CommandShell.Programs.Script.Builtins
import CommandShell.Programs.Script.Reader

/-!
# What names mean to a script

A name means a word of the script language, a command of the script itself, a function, or else a
program, which is looked for in the folders that a variable names. What has been found is
remembered, until that variable changes.
-/
namespace CommandShell.Script
open Launching

/-! ## Finding programs -/

/-- Where programs are looked for unless a script says otherwise. -/
def usualFolders : String := "/usr/local/sbin:/usr/local/bin:/usr/sbin:/usr/bin:/sbin:/bin"

namespace State

def pathsOf (s : State) (name : Chars) : List String :=
  Launching.pathsOf (textOf ((s.value? foldersName).getD [])) (textOf name)

def recalled? (s : State) (name : Chars) : Option Remembered :=
  s.remembered.find? (·.name = name)

def forget (s : State) (name : Chars) : State :=
  { s with remembered := s.remembered.filter (·.name ≠ name) }

/-- Remembers where a program is; one that was known before keeps its turn. -/
def remember (s : State) (name : Chars) (path : String) : State :=
  let found : Remembered := ⟨name, path, false⟩
  if (s.recalled? name).isSome then
    { s with remembered := s.remembered.map fun r => if r.name = name then found else r }
  else { s with remembered := s.remembered ++ [found] }

end State

/-- The paths from the first one on that can be started. If there is none, the last fault counts
that does not say that a file is missing. -/
def startable (l : Launcher) (w : World) : List String → FileFault → Except FileFault (List String)
  | [], fault => .error fault
  | path :: rest, fault =>
    match l.check w path with
    | .ok () => .ok (path :: rest)
    | .error f => startable l w rest (if f.isMissing then fault else f)

/-- Looks for a program by its name and remembers it: the paths to try. A path is tried as it
is. -/
def find (l : Launcher) (name : Chars) (s : State) : Except FileFault (List String) × State :=
  let paths := s.pathsOf name
  match name.contains '/', s.recalled? name with
  | true, _ => (.ok paths, s)
  | _, some ⟨_, path, false⟩ => (.ok (paths.dropWhile (· ≠ path)), s)
  | _, _ =>
    match startable l s.world paths .notFound with
    | .error fault => (.error fault, s.forget name)
    | .ok found => (.ok found, s.remember name (found.headD ""))

/-- Whether a name is that of a program, unless nothing has that name. -/
def isProgram (name : Chars) (s : State) : Bool :=
  !name.contains '/' && !isBuiltin (textOf name) && (s.functions.lookup name).isNone

/-- Looks for the programs of a pipeline before its stages are run, where their names are plain. -/
def findAhead (l : Launcher) (stages : List Command) (s : State) : State :=
  stages.foldl (fun s stage =>
    match stage with
    | .simple _ _ ([.text false name] :: _) _ =>
      if isName name && isProgram name s then (find l name s).2 else s
    | _ => s) s

/-- The path of a script that is run as a part of this one. -/
def scriptPath? (name : Chars) (s : State) : Option String :=
  if name.contains '/' then some (textOf name)
  else
    (s.pathsOf name).find? fun path =>
      match s.world.follow path with
      | .ok (.file ..) => true
      | _ => false

/-- How a script says why a program could not be started. -/
def startComplaint (fault : FileFault) : String :=
  if fault.isMissing then "not found" else fault.wording

/-! ## Saying what names mean -/

/-- What a name means to a script. -/
inductive Meaning
  | keyword
  | alias_ (text : Chars)
  | special
  | function
  | builtin
  | program (path : String)
  /-- A program that had been found before. -/
  | known (path : String)

/-- What a name means, and the state after a program has been looked for, in the folders that are
given, if any are. -/
def meaning? (l : Launcher) (folders : Option String) (name : String) (s : State) :
    Option Meaning × State :=
  let cs := byteChars name
  if keywords.contains name then (some .keyword, s)
  else if let some text := s.aliases.lookup cs then (some (.alias_ text), s)
  else if specialBuiltins.contains name then (some .special, s)
  else if (s.functions.lookup cs).isSome then (some .function, s)
  else if isBuiltin name then (some .builtin, s)
  else if cs.contains '/' then
    match s.world.follow name with
    | .error _ => (none, s)
    | .ok (.free _) => (none, s)
    | .ok _ => (some (.program name), s)
  else
    match folders, s.recalled? cs with
    | some folders, _ =>
      match startable l s.world (Launching.pathsOf folders name) .notFound with
      | .ok paths => (paths.head?.map .program, s)
      | .error _ => (none, s)
    | none, some r => (some (.known r.path), s)
    | none, none =>
      match find l cs s with
      | (.ok paths, s) => (paths.head?.map .program, s)
      | (.error _, s) => (none, s)

def Meaning.shown (m : Meaning) (name : String) : String :=
  match m with
  | keyword => s!"{name} is a shell keyword"
  | alias_ text => s!"{name} is an alias for {textOf text}"
  | special => s!"{name} is a special shell builtin"
  | function => s!"{name} is a shell function"
  | builtin => s!"{name} is a shell builtin"
  | program path => s!"{name} is {path}"
  | known path => s!"{name} is a tracked alias for {path}"

/-- The word that stands for the meaning of a name. -/
def Meaning.brief (m : Meaning) (name : String) : String :=
  match m with
  | alias_ text => "alias " ++ Builtin.aliasLine (byteChars name, text)
  | program path => path
  | known path => path
  | _ => name

/-- Says what names mean, at length or shortly. -/
def explain (l : Launcher) (folders : Option String) (atLength : Bool) (names : List Chars)
    (s : State) : State :=
  names.foldl (fun s name =>
    let name := textOf name
    match meaning? l folders name s with
    | (some m, s) => s.print (if atLength then m.shown name else m.brief name)
    | (none, s) => (if atLength then s.print s!"{name}: not found" else s).ends 127) s.succeed

/-- The order in which programs that have been found are shown: names with one such number are shown
in the order in which they were found. -/
def turn (name : Chars) : Nat :=
  let sum := name.foldl (fun n c => n + c.toNat) (16 * (name.headD '\x00').toNat)
  sum % 32768 % 31

/-- Looks for programs and remembers them, forgets them all, or shows those that are known. -/
def remember (l : Launcher) : Builtin := Builtin.withLetters "r" fun g s =>
  let look (s : State) (name : Chars) : State :=
    if !isProgram name s then s
    else
      match find l name (s.forget name) with
      | (.ok _, s) => s
      | (.error fault, s) => (s.complain s!"{textOf name}: {startComplaint fault}").ends 1
  if g.has 'r' then .ok { s.succeed with remembered := [] }
  else if g.operands.isEmpty then
    let shown := s.remembered.mergeSort fun a b => turn a.name ≤ turn b.name
    .ok (shown.foldl (fun s r => s.print (r.path ++ if r.stale then "*" else "")) s.succeed)
  else .ok (g.operands.foldl look s.succeed)

/-! ## Starting programs -/

/-- The status of a command line whose program could not be started. -/
def startStatus : FileFault → Nat
  | .notFound => 127
  | .notFolder => 127
  | .nameTooLong => 127
  | .tooManyLinks => 127
  | _ => 126

/-- The status of a program whose output could not be written. -/
def unwritten (name : String) : Nat :=
  if ["dir", "egrep", "fgrep", "grep", "ls", "printenv", "sort", "vdir"].contains name then 2
  else if ["expr", "tty"].contains name then 3
  else 1

def afterProgram (name : String) (s : State) (e : ToolEnd) : State :=
  let s := s.claimSlot.2.collect.leave 0 e.unread
  let (s, failed) := e.written.foldl (fun (acc : State × Bool) w =>
    match acc.1.put? (if w.reported then 2 else 1) w.bytes with
    | some s => (s, acc.2)
    | none => (acc.1, true)) (s, false)
  if e.status < 0 then
    let signal := (-e.status).toNat
    let said := Signal.announcement signal
    (if said = "" then s else s.report (said ++ "\n")).ends (128 + signal)
  else if failed && e.status = 0 then s.ends (unwritten (NameText.last name))
  else s.ends (e.status.toNat % 256)

/-- Starts the first of some paths that can be started. The last fault counts that does not say that
a file is missing. -/
def startFirst (l : Launcher) (argv : List Chars) (paths : List String) (s : State) : State :=
  let words := argv.map textOf
  let job : Job := ⟨words.headD "", words.drop 1, s.surroundings, s.offer 0, s.target?⟩
  let ignored := ((s.traps.filter (·.2 = [])).map Prod.fst) ++ s.world.ignored
  let (found, w) := tryPaths (startOrRead l job) (fun _ => true) paths { s.world with ignored }
  let s := s.withWorld { w with ignored := s.world.ignored }
  match found with
  | .ok e => afterProgram job.name s e
  | .error faults =>
    let fault := (faults.reverse.find? (!·.isMissing)).getD .notFound
    (s.complain s!"{textOf (argv.headD [])}: {startComplaint fault}").ends (startStatus fault)

/-- Runs a program, which is looked for in the folders that are given, if any are. -/
def useProgram (l : Launcher) (folders : Option String) (argv : List Chars) (s : State) : State :=
  let s := s.pass (Waiting.sleepOf (argv.map textOf))
  let name := argv.headD []
  let (found, s) := match folders with
    | some folders => (startable l s.world (Launching.pathsOf folders (textOf name)) .notFound, s)
    | none => find l name s
  match found with
  | .ok paths => startFirst l argv paths s
  | .error fault => (s.complain s!"{textOf name}: {startComplaint fault}").ends 127

def becomeProgram (l : Launcher) (argv : List Chars) (s : State) : State :=
  let s := s.pass (Waiting.sleepOf (argv.map textOf))
  startFirst l argv (s.pathsOf (argv.headD [])) s

end CommandShell.Script
