import CommandShell.Programs.Sources
import CommandShell.Text.Aligned

/-!
# Copies

The tools that write what they read, as it is, with marks, or turned around.
-/
namespace CommandShell.Copies
open Bytes Text

/-! ## Marking -/

/-- How a copy is marked. -/
structure Marking where
  numbers : Bool
  filledNumbers : Bool
  ends : Bool
  squeeze : Bool
  tabs : Bool
  visible : Bool

def Marking.isPlain (m : Marking) : Bool :=
  !(m.numbers || m.filledNumbers || m.ends || m.squeeze || m.tabs || m.visible)

def visibleByte (b : UInt8) : List UInt8 :=
  let low (c : UInt8) : List UInt8 :=
    if c < 32 then [94, c + 64] else if c = 127 then [94, 63] else [c]
  if 128 ≤ b then [77, 45] ++ low (b - 128) else low b

/-- A line, without its line feed, as it is marked. -/
def Marking.body (m : Marking) (line : List UInt8) : List UInt8 :=
  line.flatMap fun b =>
    if b = 9 then (if m.tabs then [94, 73] else [9])
    else if m.visible then visibleByte b else [b]

/-- How far a copy has come: whether a line starts, how many empty lines came last, and how many
lines have been numbered. -/
structure CopyState where
  atStart : Bool
  empties : Nat
  number : Nat

def CopyState.begin : CopyState := ⟨true, 0, 0⟩

/-- The end of a line: a carriage return in front of it is shown where ends are. -/
def Marking.ending (m : Marking) (line : List UInt8) : List UInt8 :=
  if m.ends then
    if line.getLast? = some 13 ∧ ¬ m.visible then
      m.body line.dropLast ++ [94, 77, 36, lineFeed]
    else m.body line ++ [36, lineFeed]
  else m.body line ++ [lineFeed]

/-- One line, or the rest of one, with its mark. -/
def Marking.step (m : Marking) (s : CopyState) (chunk : List UInt8) : List UInt8 × CopyState :=
  let complete := chunk.getLast? = some lineFeed
  let isEmpty := s.atStart && chunk = [lineFeed]
  if isEmpty && m.squeeze && 0 < s.empties then ([], s)
  else
    let counted := s.atStart && (if m.filledNumbers then !isEmpty else m.numbers)
    let number := if counted then s.number + 1 else s.number
    let mark := if counted then bytesOf (aligned 6 number ++ "\t") else []
    let body := if complete then m.ending chunk.dropLast else m.body chunk
    (mark ++ body, ⟨complete, if isEmpty then s.empties + 1 else 0, number⟩)

def Marking.copy (m : Marking) (s : CopyState) (bytes : ByteArray) : ByteArray × CopyState :=
  if m.isPlain then (bytes, s)
  else
    let (out, s) := (chunks bytes).foldl (fun (out, s) chunk =>
      let (marked, s) := m.step s chunk
      (marked.foldl ByteArray.push out, s)) (.empty, s)
    (out, s)

def markingOf (o : Options) : Marking :=
  { numbers := o.has "n"
    filledNumbers := o.has "b"
    ends := o.hasAny ["A", "e", "E"]
    squeeze := o.has "s"
    tabs := o.hasAny ["A", "t", "T"]
    visible := o.hasAny ["A", "e", "t", "v"] }

/-- How far copying has come: what has been written, the newest first, and whether all went well. -/
structure Copied where
  out : List Written
  state : CopyState
  good : Bool

/-- Copies one source more. A file is not copied to itself, unless all of it has been read. -/
def Copied.next (m : Marking) (job : Job) (c : Copied) (source : Source) : Copied :=
  let complain (said : String) : Copied :=
    { c with out := ⟨true, ofText (said ++ "\n")⟩ :: c.out, good := false }
  match source.contents with
  | .ok bytes =>
    let isTarget := source.identity?.isSome && source.identity? = job.target
    let written := c.out.any fun w => !w.reported && !w.bytes.isEmpty
    if isTarget && (written || !bytes.isEmpty) then
      complain s!"{job.name}: {Naming.ifNeeded source.name}: input file is output file"
    else
      let (copied, state) := m.copy c.state bytes
      { c with out := ⟨false, copied⟩ :: c.out, state }
  | .error _ => complain ((Source.complaint job.name source).getD "")

def cat : Tool :=
  .withOptions (.of "AbeEnstTuv" ["number-nonblank b", "number n", "squeeze-blank s",
    "show-nonprinting v", "show-ends E", "show-tabs T", "show-all A"]) 1 fun o job w =>
    let operands := Tool.operandsOrInput o.operands
    let sources := Source.ofOperands w job.input operands
    let c := sources.foldl (Copied.next (markingOf o) job) ⟨[], .begin, true⟩
    (⟨c.out.reverse, if c.good then 0 else 1, Tool.leftOver job operands⟩, w)

/-- Copies the input to the output and to every operand. -/
def tee : Tool :=
  .withOptions (.of "aip" ["append a", "ignore-interrupts i", "output-error[=]"]) 1 fun o job w =>
    let mode := if o.has "a" then WriteMode.extend else .replace
    let opened := o.operands.foldl (fun w name => (w.save mode name .empty).toOption.getD w) w
    let bytes := (job.input.after w.files opened.files).bytes
    let (reports, w) := o.operands.foldl (fun (reports, w) name =>
      match w.save mode name bytes with
      | .ok w => (reports, w)
      | .error fault => (s!"{job.name}: {Naming.ifNeeded name}: {fault.wording}" :: reports, w))
      (([] : List String), w)
    (.of reports.reverse bytes (if reports = [] then 0 else 1) .empty, w)

/-! ## Turning around -/

/-- Cuts bytes at a separator, from the end on; a separator stays with what stands before it, or
with what stands after it. The last record comes first. -/
def recordsBack (before : Bool) (separator : List UInt8) (bytes : List UInt8) :
    List (List UInt8) :=
  let back := separator.reverse
  let rec scan (fuel : Nat) (sofar : List UInt8) (rest : List UInt8) : List (List UInt8) :=
    match fuel, rest with
    | 0, _ => [sofar]
    | _, [] => [sofar]
    | fuel + 1, b :: more =>
      if back.isPrefixOf rest then
        let rest := rest.drop back.length
        if before then (separator ++ sofar) :: scan fuel [] rest
        else sofar :: scan fuel separator rest
      else scan fuel (b :: sofar) more
  (scan (bytes.length + 1) [] bytes.reverse).filter (· ≠ [])

def tac : Tool :=
  .reader (.of "brs:" ["before b", "regex r", "separator= s"]) 1 fun o job sources =>
    let separator := bytesOf ((o.value? "s").getD "\n")
    let separator := if separator = [] then [0] else separator
    let turned := (Source.found sources).map fun e =>
      join (recordsBack (o.has "b") separator e.2.toList)
    let reports := sources.filterMap fun s =>
      match s.kind, s.contents with
      | .folder, .error fault =>
        some s!"{job.name}: {Naming.ifNeeded s.name}: read error: {fault.wording}"
      | _, .error fault =>
        some s!"{job.name}: failed to open {Naming.always s.name} for reading: {fault.wording}"
      | _, .ok _ => none
    ⟨reports, concat turned, Source.status sources⟩

/-- Every line backwards. A lone hyphen is a name like any other here. -/
def rev : Tool := .withOptions (.of "0" ["zero 0"]) 1 fun o job w =>
  let operands := Tool.operandsOrInput o.operands
  let sources := if o.operands = [] then Source.ofOperands w job.input ["-"]
    else o.operands.map fun name =>
      if name = "-" then ⟨name, .missing, .error .notFound⟩
      else (Source.ofOperands w job.input [name]).headD ⟨name, .missing, .error .notFound⟩
  let turn (chunk : List UInt8) : List UInt8 :=
    if chunk.getLast? = some lineFeed then chunk.dropLast.reverse ++ [lineFeed] else chunk.reverse
  let output := concat ((Source.found sources).map fun e => join ((chunks e.2).map turn))
  let reports := sources.filterMap fun s =>
    match s.contents with
    | .error fault => some s!"{job.name}: cannot open {s.name}: {fault.wording}"
    | .ok _ => none
  (.of reports output (Source.status sources) (Tool.leftOver job operands), w)

end CommandShell.Copies
