import CommandShell.Programs.Amount
import CommandShell.Programs.Sources

/-!
# Drawing lots

The tool that puts its lines into some order, or draws some of them. Every order is as good as any
other one: the lines stay as they are, and those in front are drawn. Where lines may be drawn again,
they are drawn in turn.
-/
namespace CommandShell.Drawing
open Bytes

/-- What lots are drawn from. -/
inductive Lots
  | lines (items : List (List UInt8))
  /-- The numbers from one up to another. -/
  | numbers (first last : Nat)

/-- The most lots that are written. No reader waits for more. -/
def most : Nat := 2097152

def Lots.count : Lots → Nat
  | lines items => items.length
  | numbers first last => last + 1 - first

/-- The first lots, at most so many. -/
def Lots.first (n : Nat) : Lots → List (List UInt8)
  | lines items => items.take n
  | numbers first last => (List.range' first (min n (last + 1 - first))).map fun k =>
    bytesOf (toString k)

/-- So many lots, again from the start where there are too few. -/
def Lots.cycled (n : Nat) (l : Lots) : List (List UInt8) :=
  let items := l.first (min n most)
  if items = [] then []
  else ((List.replicate (n / items.length + 1) items).flatten).take n

/-- Reads two numbers with a hyphen between them. What is below the first one by one stands for no
numbers at all. -/
def rangeOf (text : String) : Except String Lots :=
  let cs := text.toList
  let first := cs.takeWhile (· ≠ '-')
  let last := cs.drop (first.length + 1)
  let read (cs : List Char) : Except Amount.Fault Nat :=
    Amount.within 0 Amount.largest "" (String.ofList cs)
  let wrong := s!"invalid input range: {Naming.literal text}"
  match read first, read last with
  | .ok a, .ok b =>
    if a ≤ b + 1 ∧ b + 1 - a ≤ Amount.largest then .ok (.numbers a b) else .error wrong
  | .error .malformed, _ => .error wrong
  | .ok _, .error .malformed => .error wrong
  | _, _ => .error s!"{wrong}: Value too large for defined data type"

/-- How many lots are drawn; of several counts the smallest. A count that is too large is none. -/
def countOf (o : Options) : Except String (Option Nat) :=
  (o.values "n").foldlM (fun least text =>
    match Amount.within 0 Amount.largest "" text with
    | .ok n => .ok (some ((least.map (min n)).getD n))
    | .error .malformed => .error s!"invalid line count: {Naming.literal text}"
    | .error _ => .ok least) none

def table : OptionTable :=
  .of "ei:n:o:rz" ["echo e", "input-range= i", "head-count= n", "output= o", "random-source=",
    "repeat r", "zero-terminated z"]

def itemsOf (zero : Bool) (bytes : ByteArray) : List (List UInt8) :=
  if zero then (lines (mapBytes swap bytes)).map (·.map swap) else lines bytes
where
  swap (b : UInt8) : UInt8 := if b = 0 then lineFeed else if b = lineFeed then 0 else b

/-- The lots that are drawn, each with its end. -/
def drawn (o : Options) (count : Option Nat) (lots : Lots) : Except String ByteArray :=
  let ending : UInt8 := if o.has "z" then 0 else lineFeed
  let items : Except String (List (List UInt8)) :=
    if count = some 0 then .ok []
    else if o.has "r" then
      if lots.count = 0 then .error "no lines to repeat" else .ok (lots.cycled (count.getD most))
    else .ok (lots.first (min most (count.getD most)))
  items.map fun items => join (items.map (· ++ [ending]))

def shuf : Tool := .withOptions table 1 fun o job w =>
  let misused (message : String) : ToolEnd × World := (Tool.misused job message 1, w)
  let failed (message : String) : ToolEnd × World := (Tool.failing job message 1, w)
  let write (unread : ByteArray) (drawn : Except String ByteArray) : ToolEnd × World :=
    match drawn, o.value? "o" with
    | .error message, _ => failed message
    | .ok bytes, none => (.of [] bytes 0 unread, w)
    | .ok bytes, some name =>
      match w.save .replace name bytes with
      | .ok w => (.of [] .empty 0 unread, w)
      | .error fault => failed s!"{Naming.ifNeeded name}: {fault.wording}"
  match countOf o, (o.values "i").mapM rangeOf with
  | .error message, _ => failed message
  | _, .error message => failed message
  | .ok count, .ok ranges =>
    let others := (o.values "o").eraseDups
    if 1 < ranges.length then failed "multiple -i options specified"
    else if 1 < others.length then failed "multiple output files specified"
    else
      match ranges.head?, o.has "e", o.operands with
      | some _, true, _ => misused "cannot combine -e and -i options"
      | some _, false, extra :: _ => misused s!"extra operand {Naming.literal extra}"
      | some lots, false, [] => write job.input.bytes (drawn o count lots)
      | none, true, words => write job.input.bytes (drawn o count (.lines (words.map bytesOf)))
      | none, false, _ :: extra :: _ => misused s!"extra operand {Naming.literal extra}"
      | none, false, operands =>
        let operands :=
          if count = some 0 ∧ ¬ o.has "r" then ["-"]
          else Tool.operandsOrInput operands
        match Source.ofOperands w job.input operands with
        | [s] =>
          match s.contents with
          | .ok bytes =>
            write (Tool.leftOver job operands) (drawn o count (.lines (itemsOf (o.has "z") bytes)))
          | .error .isFolder => failed "read error: Is a directory"
          | .error fault => failed s!"{Naming.ifNeeded s.name}: {fault.wording}"
        | _ => failed "no input"

end CommandShell.Drawing
