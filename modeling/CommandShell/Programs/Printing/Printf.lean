import CommandShell.Programs.Naming
import CommandShell.Programs.Options
import CommandShell.Programs.Printing.Escapes
import CommandShell.Programs.Printing.Slot

/-!
# Formats

A format is written over and over until no argument is left; a slot for which there is none is
filled with nothing, or with zero. The tool and scripts read formats in ways of their own.
-/
namespace CommandShell.Printf

/-- Who reads a format: the tool, or a script itself. -/
inductive Reader
  | tool
  | script
  deriving DecidableEq

/-- How far writing has come. -/
structure State where
  /-- What has been written, the newest first. -/
  written : List Written
  status : Int
  args : List (List Char)
  ended : Bool

namespace State

def write (cs : List Char) (s : State) : State :=
  { s with written := ⟨false, charBytes cs⟩ :: s.written }

def report (line : String) (s : State) : State :=
  { s with written := ⟨true, Bytes.ofText ("printf: " ++ line ++ "\n")⟩ :: s.written }

def stop (s : State) : State := { s with ended := true }

def die (status : Int) (line : String) (s : State) : State :=
  { s.report line with status, ended := true }

/-- The next argument; without one there is nothing to read. -/
def next (s : State) : List Char × State := (s.args.headD [], { s with args := s.args.drop 1 })

end State

def Reader.shown (r : Reader) (arg : List Char) : String :=
  match r with
  | .tool => Naming.literal (String.ofList arg)
  | .script => String.ofList arg

/-- Says what was wrong with the text of a number. -/
def Reader.blame (r : Reader) (arg : List Char) (fault : Option NumberFault) (s : State) : State :=
  let fail (what : String) : State := { s.report s!"{r.shown arg}: {what}" with status := 1 }
  match r, fault with
  | _, none => s
  | _, some .outOfRange => fail "Numerical result out of range"
  | .tool, some .missing => fail "expected a numeric value"
  | .tool, some .partial_ => fail "value not completely converted"
  | .script, some .missing => fail "expected numeric value"
  | .script, some .partial_ => fail "not completely converted"
  | .tool, some (.trailing cs) =>
    s.report ("warning: " ++ String.ofList cs ++
      ": character(s) following character constant have been ignored")
  | .script, some (.trailing _) => s

/-- The number of an argument that starts with a quote. -/
def Reader.character? (r : Reader) (arg : List Char) : Option (NumberRead Nat) :=
  match r, arg with
  | .script, [q] => if q = '"' ∨ q = '\'' then some ⟨0, none⟩ else none
  | _, arg => NumberRead.character? arg

def Reader.signed (r : Reader) (arg : List Char) : NumberRead Int :=
  match r.character? arg with
  | some found => ⟨found.value, found.fault⟩
  | none => NumberRead.signed arg

def Reader.unsigned (r : Reader) (arg : List Char) : NumberRead Nat :=
  (r.character? arg).getD (NumberRead.unsigned arg)

def Reader.keeping : Reader → Real.Keeping
  | .tool => .long
  | .script => .short

def Reader.real (r : Reader) (arg : List Char) : NumberRead Real :=
  match r.character? arg with
  | some found => ⟨.ofInt found.value, found.fault⟩
  | none => NumberRead.real r.keeping arg

/-! ## Slots -/

/-- A width or a precision: digits, or a star that takes an argument. -/
def measure (r : Reader) (cs : List Char) (s : State) : Option Int × List Char × State :=
  match cs with
  | '*' :: rest =>
    if s.args = [] then (some 0, rest, s)
    else
      let (arg, s) := s.next
      let found := r.signed arg
      (some found.value, rest, r.blame arg found.fault s)
  | cs =>
    let digits := cs.takeWhile Char.isDigit
    (if digits = [] then none else some (readDigits digits : Int), cs.drop digits.length, s)

/-- Whether the flags of a slot go together with its letter. -/
def agrees (flags : List Char) (hasPrecision : Bool) (letter : Char) : Bool :=
  "diouxXfFeEgGaAcs".contains letter &&
    !(flags.contains '#' && "cdisu".contains letter) &&
    !(flags.contains '0' && "cs".contains letter) &&
    !(flags.contains '\'' && "aAceEosxX".contains letter) &&
    !(hasPrecision && letter = 'c')

def fillSlot (r : Reader) (slot : Slot) (s : State) : State :=
  let (arg, s) := s.next
  let letter := slot.letter
  if letter = 's' then s.write (slot.text arg)
  else if letter = 'c' then s.write (slot.character arg)
  else if letter = 'd' ∨ letter = 'i' then
    let found := r.signed arg
    (r.blame arg found.fault s).write (slot.signedNumber found.value)
  else if "ouxX".contains letter then
    let found := r.unsigned arg
    (r.blame arg found.fault s).write (slot.unsignedNumber found.value)
  else
    let found := r.real arg
    (r.blame arg found.fault s).write (slot.real r.keeping found.value)

def fillEscaped (r : Reader) (slot : Slot) (s : State) : State :=
  let (arg, s) := s.next
  let (cs, ended) := Escaped.expand (if r = .tool then .argument else .scriptWord) arg
  match ended with
  | .done => s.write (slot.text cs)
  | .stopped => (s.write (slot.text cs)).stop
  | .broke message => (s.write cs).die 1 message

/-- Reads the slot behind a percent sign and fills it. -/
def slotFrom (r : Reader) (cs : List Char) (s : State) : List Char × State :=
  match r, cs with
  | .tool, 'b' :: rest => (rest, if s.args = [] then s else fillEscaped r (.plain 'b') s)
  | .tool, 'q' :: rest =>
    if s.args = [] then (rest, s)
    else
      let (arg, s) := s.next
      let bytes := arg.map fun c => UInt8.ofNat c.toNat
      let shown := if Naming.needsQuotes false bytes then Naming.quotedBytes bytes
        else String.ofList arg
      (rest, s.write shown.toList)
  | r, cs =>
    let (slot, rest) := Slot.readFlags cs
    let flags := cs.take (cs.length - rest.length)
    let (width, rest, s) := measure r rest s
    let (hasPrecision, precision, rest, s) := match rest with
      | '.' :: rest =>
        let (found, rest, s) := measure r rest s
        let precision : Option Nat := match found with
          | none => some 0
          | some n => if n < 0 then none else some n.toNat
        (true, precision, rest, s)
      | rest => (false, none, rest, s)
    let width := width.getD 0
    let slot := { slot with width := width.natAbs, left := slot.left || width < 0, precision }
    let rest := if r = .tool then rest.dropWhile fun c => "lLhjtz".contains c else rest
    match rest with
    | [] =>
      let text := String.ofList ('%' :: cs)
      (if r = .tool then ([], s.die 1 s!"{text}: invalid conversion specification")
      else ([], s.die 2 "missing format character"))
    | letter :: rest =>
      let slot := { slot with letter }
      let text := String.ofList ('%' :: cs.take (cs.length - rest.length))
      match r with
      | .tool =>
        if agrees flags hasPrecision letter then (rest, fillSlot r slot s)
        else (rest, s.die 1 s!"{text}: invalid conversion specification")
      | .script =>
        if letter = 'b' then (rest, fillEscaped r slot s)
        else if "diouxXfFeEgGaAcs".contains letter then (rest, fillSlot r slot s)
        else (rest, s.die 2 s!"{text}: invalid directive")

/-- Goes through a format once; `fuel` bounds the steps. -/
def round (r : Reader) : Nat → List Char → State → State
  | 0, _, s => s
  | fuel + 1, cs, s =>
    if s.ended then s
    else
      match cs with
      | [] => s
      | '%' :: '%' :: rest => round r fuel rest (s.write ['%'])
      | '%' :: rest =>
        let (rest, s) := slotFrom r rest s
        round r fuel rest s
      | '\\' :: rest =>
        match Escaped.read (if r = .tool then .format else .scriptFormat) rest with
        | (.stop, _) => { s.stop with status := 0 }
        | (.broken message, _) => s.die 1 message
        | (.text text, rest) => round r fuel rest (s.write text)
      | c :: rest =>
        let plain := (c :: rest).takeWhile fun d => d != '%' && d != '\\'
        round r fuel ((c :: rest).drop plain.length) (s.write plain)

/-- Goes through a format until no argument is left; `fuel` bounds the rounds. -/
def rounds (r : Reader) (format : List Char) : Nat → State → State
  | 0, s => s
  | fuel + 1, s =>
    let before := s.args.length
    let s := round r (format.length + 1) format s
    if s.ended || s.args = [] then s
    else if s.args.length < before then rounds r format fuel s
    else
      match r with
      | .tool =>
        s.report s!"warning: ignoring excess arguments, starting with {r.shown (s.args.headD [])}"
      | .script => s

def run (r : Reader) (format : List Char) (args : List (List Char)) : State :=
  rounds r format (args.length + 1) ⟨[], 0, args, false⟩

def printf : Tool := fun job w =>
  let args := if job.args.head? = some "--" then job.args.drop 1 else job.args
  match args with
  | [] => (Tool.misused job "missing operand" 1, w)
  | format :: args =>
    let s := run .tool (byteChars format) (args.map byteChars)
    (⟨s.written.reverse, s.status, job.input.bytes⟩, w)

end CommandShell.Printf
