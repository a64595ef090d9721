import CommandShell.Programs.Launching.Basic
import CommandShell.Programs.Printing.Escapes
import CommandShell.Programs.Script.Syntax
import CommandShell.Programs.Signals
import CommandShell.Programs.Waiting
import CommandShell.Text.Utf8

/-!
# The state of a script

A script has variables and arguments of its own, and handles that lead to channels. Channels, the
world and what has been written are shared with the shells that it starts, variables and handles are
not.
-/
namespace CommandShell.Script

/-- Rows of bytes as a text; where they are none, every byte is a character. -/
def textOf (cs : Chars) : String :=
  match Text.Utf8.decode (charBytes cs) with
  | .ok s => s
  | .error _ => String.ofList cs

/-- The number that a text stands for, with blanks around it and a sign in front of it. -/
def number? (cs : Chars) : Option Nat :=
  let isBlank (c : Char) : Bool := c == ' ' || ('\t' ≤ c && c ≤ '\r')
  let cs := ((cs.dropWhile isBlank).reverse.dropWhile isBlank).reverse
  let digits := if cs.head? = some '+' then cs.drop 1 else cs
  if digits ≠ [] ∧ digits.all Char.isDigit ∧ readDigits digits < Nat.pow 2 31 then
    some (readDigits digits)
  else none

def charsOf (bytes : ByteArray) : Chars := bytes.toList.map fun b => Char.ofNat b.toNat

/-! ## Channels -/

/-- What a handle leads to. -/
inductive Channel
  /-- What is written to it leaves the script, at its output or among its reports; its output may
  be taken by a file. -/
  | outward (reported : Bool) (target : Option Nat)
  /-- It keeps what is written to it, the newest first. -/
  | pool (held : List ByteArray)
  /-- It holds what is still to be read. -/
  | supply (kind : InputKind) (unread : ByteArray)
  | file (identity offset : Nat) (extending : Bool)
  | device (device : Device)
  | folder

/-- What the shells of a script share. -/
structure Shared where
  world : World
  channels : List Channel
  /-- What has left the script, the newest first. -/
  written : List Written
  /-- For how many seconds has been slept. -/
  elapsed : Real
  /-- Signals that the script still has to answer. -/
  arrived : List Nat
  /-- The signal that has ended the script, while shells that it has started go on. -/
  fatal : Option Nat

namespace Shared

def contentsOf (sh : Shared) (identity : Nat) : ByteArray := sh.world.files.contentsOf identity

def offer (sh : Shared) (channel : Nat) : Input :=
  match sh.channels[channel]? with
  | some (.supply kind unread) => ⟨kind, unread⟩
  | some (.file identity offset _) =>
    let bytes := sh.contentsOf identity
    ⟨.file identity, Bytes.slice bytes offset bytes.size⟩
  | some (.device d) => ⟨.nothing, d.bytes sh.world.files.rules.nulls⟩
  | _ => ⟨.nothing, .empty⟩

/-- The file that takes what is written to a channel. -/
def target? (sh : Shared) (channel : Nat) : Option Nat :=
  match sh.channels[channel]? with
  | some (.file identity _ _) => some identity
  | some (.outward _ target) => target
  | _ => none

def setChannel (sh : Shared) (channel : Nat) (c : Channel) : Shared :=
  { sh with channels := sh.channels.set channel c }

/-- A reader leaves so much of what a channel offered. -/
def leave (sh : Shared) (channel : Nat) (unread : ByteArray) : Shared :=
  match sh.channels[channel]? with
  | some (.supply kind _) => sh.setChannel channel (.supply kind unread)
  | some (.file identity _ extending) =>
    let size := (sh.contentsOf identity).size
    sh.setChannel channel (.file identity (size - unread.size) extending)
  | _ => sh

/-- Writes to a channel, unless it takes nothing. -/
def put (sh : Shared) (channel : Nat) (bytes : ByteArray) : Option Shared :=
  match sh.channels[channel]? with
  | some (.outward reported _) => some { sh with written := ⟨reported, bytes⟩ :: sh.written }
  | some (.pool held) => some (sh.setChannel channel (.pool (bytes :: held)))
  | some (.file identity offset extending) =>
    let old := sh.contentsOf identity
    let offset := if extending then old.size else offset
    let files := sh.world.files.rewrite identity fun f =>
      { f with bytes := Bytes.overwrite old offset bytes }
    some ({ sh with world := { sh.world with files } }.setChannel channel
      (.file identity (offset + bytes.size) extending))
  | some (.device d) => if d.takes bytes then some sh else none
  | _ => none

/-- Adds a channel; its number is the count of those before. -/
def add (sh : Shared) (c : Channel) : Nat × Shared :=
  (sh.channels.length, { sh with channels := sh.channels ++ [c] })

def kept (sh : Shared) (channel : Nat) : ByteArray :=
  match sh.channels[channel]? with
  | some (.pool held) => Bytes.concat held.reverse
  | _ => .empty

end Shared

/-! ## The state -/

structure Variable where
  value : Option Chars
  exported : Bool
  /-- Whether it can no longer be assigned. -/
  fixed : Bool
  deriving Repr

/-- Whether a script goes on, and if not, why. -/
inductive Flow
  | onward
  | leaving (status : Nat)
  | killed (signal : Nat)
  /-- Out of so many loops, or to the next round of the last of them. -/
  | breaking (again : Bool) (levels : Nat)
  /-- Out of a function. -/
  | returning
  deriving DecidableEq, Repr

/-- How a job has ended. -/
inductive JobEnd
  | exited (status : Nat)
  | killed (signal : Nat)
  deriving DecidableEq, Repr

namespace JobEnd

def status : JobEnd → Nat
  | exited status => status
  | killed signal => 128 + signal

/-- How the end of a job is shown among the jobs. -/
def shown : JobEnd → String
  | exited status => if status = 0 then "Done" else s!"Done({status})"
  | killed signal => Signal.descriptionOf signal

/-- What is said about the end of a job for which a script has waited. -/
def announcement : JobEnd → String
  | exited _ => ""
  | killed signal => Signal.announcement signal

end JobEnd

/-- A job that runs aside. -/
structure Background where
  /-- Its number as a program, and its number among the jobs. -/
  number : Nat
  slot : Nat
  /-- How many programs it is made of. -/
  stages : Nat
  /-- When it is done, and what it does then, if that is still to come. -/
  due : Real
  work : Option (Shared → Shared × JobEnd)
  ended : Option JobEnd
  /-- Whether the script has found out that it has ended. -/
  known : Bool
  /-- Whether the script has waited for it. -/
  waited : Bool

/-- What the variables of a function were before, and the options, if they are its own. -/
structure Frame where
  values : List (Chars × Option Variable)
  options : Option (List Char)

/-- How much may be used; none if there is no end to it. A script may raise the softer limit up to
the harder one. -/
structure Limit where
  soft : Option Nat
  hard : Option Nat

/-- A program that has been found by its name. -/
structure Remembered where
  name : Chars
  path : String
  /-- Whether the working folder has changed since. -/
  stale : Bool

structure State where
  shared : Shared
  handles : List (Nat × Nat)
  values : List (Chars × Variable)
  functions : List (Chars × Command)
  name : Chars
  args : List Chars
  status : Nat
  /-- The status of the last commands whose output was asked for. -/
  outputStatus : Option Nat
  line : Nat
  /-- What is shown in front of a complaint: the command that is running, if it is the script's
  own. -/
  context : String
  options : List Char
  loops : Nat
  flow : Flow
  /-- The jobs that run aside, the newest first, and how many have been started. -/
  jobs : List Background
  started : Nat
  traps : List (Nat × Chars)
  /-- Whether this shell was started by the script, and how the script itself answers signals. -/
  inner : Bool
  outerTraps : List (Nat × Chars)
  /-- What was before, for each function that runs. -/
  locals : List Frame
  /-- How far options have been read within a word. -/
  optionOffset : Nat
  folder : Chars
  /-- The programs that have been found, the first one first. -/
  remembered : List Remembered
  /-- Names with the texts that they stand for at the start of a command. -/
  aliases : List (Chars × Chars)
  /-- Limits that have been set, by their letters. -/
  limits : List (Char × Limit)

def ownNumber : Nat := 2

namespace State

def world (s : State) : World := s.shared.world

def withWorld (s : State) (w : World) : State := { s with shared := { s.shared with world := w } }

def isOnward (s : State) : Bool := s.flow == .onward

def ends (s : State) (status : Nat) : State := { s with status }

def succeed (s : State) : State := s.ends 0

/-- Writes to a handle; none if it takes nothing. -/
def put? (s : State) (handle : Nat) (bytes : ByteArray) : Option State := do
  let channel ← s.handles.lookup handle
  let shared ← s.shared.put channel bytes
  return { s with shared }

def offer (s : State) (handle : Nat) : Input :=
  match s.handles.lookup handle with
  | some channel => s.shared.offer channel
  | none => ⟨.nothing, .empty⟩

def target? (s : State) : Option Nat := (s.handles.lookup 1).bind s.shared.target?

def leave (s : State) (handle : Nat) (unread : ByteArray) : State :=
  match s.handles.lookup handle with
  | some channel => { s with shared := s.shared.leave channel unread }
  | none => s

def setHandle (s : State) (handle channel : Nat) : State :=
  { s with handles := (handle, channel) :: s.handles.filter (·.1 ≠ handle) }

def closeHandle (s : State) (handle : Nat) : State :=
  { s with handles := s.handles.filter (·.1 ≠ handle) }

def opened (s : State) (handle : Nat) (c : Channel) : State :=
  let (channel, shared) := s.shared.add c
  { s with shared }.setHandle handle channel

def report (s : State) (text : String) : State := (s.put? 2 (Bytes.ofText text)).getD s

def complain (s : State) (message : String) : State :=
  s.report s!"{textOf s.name}: {s.line}: {s.context}{message}\n"

/-- Writes to the output; a handle that takes nothing makes for a failure. -/
def write (s : State) (bytes : ByteArray) : State :=
  if bytes.isEmpty then s
  else
    match s.put? 1 bytes with
    | some s => s
    | none => (s.complain s!"{s.context}I/O error").ends 1

def print (s : State) (line : String) : State := s.write (Bytes.ofText (line ++ "\n"))

def die (s : State) (message : String) : State :=
  { s.complain message with status := 2, flow := .leaving 2 }

/-! ## Variables -/

def named? (s : State) (name : Chars) : Option Variable := s.values.lookup name

def value? (s : State) (name : Chars) : Option Chars := (s.named? name).bind Variable.value

def hasOption (s : State) (letter : Char) : Bool := s.options.contains letter

def setVariable (s : State) (name : Chars) (v : Variable) : State :=
  { s with values := (name, v) :: s.values.filter (·.1 ≠ name) }

def foldersName : Chars := "PATH".toList

def forgetFor (s : State) (name : Chars) : State :=
  if name = foldersName then { s with remembered := [] } else s

def removeVariable (s : State) (name : Chars) : State :=
  { s with values := s.values.filter (·.1 ≠ name) }.forgetFor name

def assign (s : State) (name value : Chars) : Except String State :=
  let before := (s.named? name).getD ⟨none, s.hasOption 'a', false⟩
  let counts : Bool := name = "OPTIND".toList
  if before.fixed then .error s!"{textOf name}: is read only"
  else if counts && (number? value).isNone then .error s!"Illegal number: {textOf value}"
  else
    let s := (s.setVariable name { before with value := some value }).forgetFor name
    .ok (if counts then { s with optionOffset := 0 } else s)

def assignExported (s : State) (name value : Chars) : Except String State := do
  let s ← s.assign name value
  let v := (s.named? name).getD ⟨none, true, false⟩
  return s.setVariable name { v with exported := true }

def surroundings (s : State) : List (String × String) :=
  s.values.reverse.filterMap fun (name, v) =>
    if v.exported then v.value.map fun value => (textOf name, textOf value) else none

def separators (s : State) : Chars := (s.value? "IFS".toList).getD [' ', '\t', '\n']

def separator (s : State) : Chars := s.separators.take 1

def joinedArgs (s : State) : Chars := List.intercalate s.separator s.args

def lastJob? (s : State) : Option Nat :=
  if s.started = 0 then none else some (ownNumber + s.started)

def shownOptions (s : State) : Chars := (s.options.filter fun c => ' ' < c).reverse

def text? (s : State) (name : Chars) : Option Chars :=
  let shown (n : Nat) : Chars := (toString n).toList
  match name with
  | ['@'] => some s.joinedArgs
  | ['*'] => some s.joinedArgs
  | ['#'] => some (shown s.args.length)
  | ['?'] => some (shown s.status)
  | ['$'] => some (shown ownNumber)
  | ['!'] => s.lastJob?.map shown
  | ['-'] => some s.shownOptions
  | name =>
    if name.all Char.isDigit then
      let n := readDigits name
      if n = 0 then some s.name else s.args[n - 1]?
    else s.value? name

/-! ## Jobs -/

def changeJob (number : Nat) (change : Background → Background) (s : State) : State :=
  { s with jobs := s.jobs.map fun j => if j.number = number then change j else j }

def later (a b : Real) : Real := if a.less b then b else a

def finishJob (s : State) (j : Background) : State :=
  match j.work with
  | none => s
  | some perform =>
    let (shared, ended) := perform s.shared
    let shared := { shared with elapsed := later s.shared.elapsed j.due }
    let flow := match shared.fatal, s.inner with
      | some signal, false => .killed signal
      | _, _ => s.flow
    { s with shared, flow }.changeJob j.number fun j =>
      { j with work := none, ended := some ended }

/-- Lets jobs go on that are done by a time, or all of them to their end. -/
def settle (until_ : Option Real) (s : State) : State :=
  let isReady (j : Background) : Bool := j.work.isSome && (until_.all fun t => !t.less j.due)
  let ready := (s.jobs.reverse.filter isReady).mergeSort fun a b => !b.due.less a.due
  ready.foldl finishJob s

def settled (s : State) : State := s.settle (some s.shared.elapsed)

def pass (span : Real) (s : State) : State :=
  { s with shared := { s.shared with elapsed := s.shared.elapsed.add span } }.settled

def collect (s : State) : State :=
  { s with jobs := s.jobs.map fun j => { j with known := j.ended.isSome } }

/-- The first number that a job can have, once those are forgotten of which nothing more is to be
told. -/
def claimSlot (s : State) : Nat × State :=
  let isHeld (n : Nat) : Bool := s.jobs.any fun j => j.slot = n && !(j.known && j.waited)
  let slot := ((List.range (s.jobs.length + 1)).find? fun n => !isHeld (n + 1)).getD 0 + 1
  (slot, { s with jobs := s.jobs.filter (·.slot ≠ slot) })

def startJob (stages : Nat) (span : Real) (perform : Shared → Shared × JobEnd) (s : State) :
    State :=
  let (slot, s) := s.claimSlot
  let started := s.started + 1
  let due := s.shared.elapsed.add span
  let job : Background :=
    ⟨ownNumber + started, slot, stages, due, some perform, none, false, false⟩
  { s with jobs := job :: s.jobs, started, status := 0 }

/-! ## Shells of their own -/

def fork (s : State) : State :=
  { s with
    shared := { s.shared with
      world := { s.world with waiting := s.world.place :: s.world.waiting } }
    loops := 0
    flow := .onward
    traps := s.traps.filter (·.2 = [])
    outerTraps := if s.inner then s.outerTraps else s.traps
    inner := true
    jobs := [] }

def finalStatus (s : State) : Nat :=
  match s.flow with
  | .leaving status => status % 256
  | .killed signal => 128 + signal
  | _ => s.status % 256

/-- Goes on after a shell that was started has ended, unless the script has been ended by then. -/
def join (s after : State) : State :=
  let s := s.claimSlot.2.collect
  let w := after.world
  let w := { w with
    place := w.waiting.headD s.world.place
    waiting := w.waiting.drop 1
    mask := s.world.mask
    ignored := s.world.ignored }
  { s with
    shared := { after.shared with world := w }
    status := after.finalStatus
    flow := match after.shared.fatal, s.inner with
      | some signal, false => .killed signal
      | _, _ => s.flow }

end State
end CommandShell.Script
