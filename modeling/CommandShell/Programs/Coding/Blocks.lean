import CommandShell.Programs.Amount
import CommandShell.Programs.Progress
import CommandShell.Programs.Sources

/-!
# Blocks

The tool that copies blocks of bytes from one place of a file to a place of another one, and
converts them on the way. Its words are names with values behind an equals sign.
-/
namespace CommandShell.Blocks
open Bytes

/-! ## Numbers -/

def largest : Nat := Amount.largestSigned

/-- A number with a unit, or a product of such numbers; `fuel` bounds how many there are. -/
def numberOf : Nat → List Char → Option Nat
  | 0, _ => none
  | fuel + 1, cs =>
    let first := cs.takeWhile (· ≠ 'x')
    let (first, rest) :=
      if (cs.drop first.length).drop 1 |>.isEmpty then (cs, [])
      else (first, cs.drop (first.length + 1))
    let bare := match first.reverse with
      | 'B' :: c :: more => if c.isDigit then (c :: more).reverse else first
      | _ => first
    match bare.head?.filter Char.isDigit, Amount.read? "bcEGkKMPTwYZ0" (String.ofList bare),
      rest with
    | none, _, _ => none
    | _, none, _ => none
    | _, some n, [] => some n
    | _, some n, rest => (numberOf fuel rest).map (n * ·)

/-- A length in blocks or in bytes. -/
structure Length where
  amount : Nat
  inBytes : Bool

def Length.bytes (l : Length) (block : Nat) : Nat :=
  if l.inBytes then l.amount else l.amount * block

/-! ## What is asked for -/

inductive Conversion
  | upper
  | lower
  | swapped
  | padded
  /-- Lines are filled up with blanks to a length. -/
  | toRecords
  | fromRecords
  | keepsRest
  | mustExist
  | mustNotExist
  /-- The output has to be on a disk at the end. -/
  | settled
  /-- Conversions that change no byte. -/
  | other
  deriving DecidableEq

def Conversion.ofWord? (word : String) : Option Conversion :=
  match word with
  | "ucase" => some upper
  | "lcase" => some lower
  | "swab" => some swapped
  | "sync" => some padded
  | "block" => some toRecords
  | "unblock" => some fromRecords
  | "notrunc" => some keepsRest
  | "nocreat" => some mustExist
  | "excl" => some mustNotExist
  | "noerror" => some other
  | "fsync" => some settled
  | "fdatasync" => some settled
  | "sparse" => some other
  | _ => none

def quietFlags : List String :=
  ["direct", "directory", "dsync", "sync", "fullblock", "nonblock", "noatime", "nocache", "noctty",
    "nofollow", "nolinks", "binary", "text", "cio"]

structure Task where
  input : Option String
  output : Option String
  readSize : Nat
  recordSize : Nat
  writeSize : Nat
  skip : Length
  count : Option Length
  seek : Length
  conversions : List Conversion
  appends : Bool
  silent : Bool

inductive Refusal
  | words (message : String)
  | plain (message : String)

/-- The values of a name, in order. -/
def valuesOf (items : List (String × String)) (names : List String) : List String :=
  (items.filter fun e => names.contains e.1).map Prod.snd

def itemOf? (word : String) : Option (String × String) :=
  let cs := word.toList
  let name := cs.takeWhile (· ≠ '=')
  if name.length = cs.length then none
  else some (String.ofList name, String.ofList (cs.drop (name.length + 1)))

def sizeNames : List String := ["ibs", "obs", "bs", "cbs"]

def lengthNames : List String := ["count", "skip", "iseek", "seek", "oseek"]

def textNames : List String := ["if", "of", "conv", "iflag", "oflag", "status"]

def piecesOf (values : List String) : List String :=
  values.flatMap fun text => text.splitOn ","

/-- Pairs of conversions of which only one may be asked for. -/
def clashes : List (Conversion × Conversion × String) :=
  [(.toRecords, .fromRecords, "block,unblock"), (.lower, .upper, "lcase,ucase"),
    (.mustNotExist, .mustExist, "excl,nocreat")]

def Task.read (words : List String) : Except Refusal Task := do
  let items ← words.mapM fun word =>
    match itemOf? word with
    | some item =>
      if (sizeNames ++ lengthNames ++ textNames).contains item.1 then .ok item
      else .error (Refusal.words s!"unrecognized operand {Naming.literal word}")
    | none => .error (.words s!"unrecognized operand {Naming.literal word}")
  let number (text : String) : Except Refusal Nat :=
    let wrong := s!"invalid number: {Naming.literal text}"
    match numberOf (text.length + 1) text.toList with
    | some n =>
      if n ≤ largest then .ok n
      else .error (.plain s!"{wrong}: Value too large for defined data type")
    | none => .error (.plain wrong)
  let numbers (names : List String) (least : Nat) : Except Refusal (Option (String × Nat)) := do
    let found ← (valuesOf items names).mapM fun text => do
      let n ← number text
      if n < least then throw (.plain s!"invalid number: {Naming.literal text}")
      return (text, n)
    return found.getLast?
  let conversions ← (piecesOf (valuesOf items ["conv"])).mapM fun word =>
    match Conversion.ofWord? word with
    | some c => .ok c
    | none => .error (.words s!"invalid conversion: {Naming.literal word}")
  let flags ← (piecesOf (valuesOf items ["iflag"])).mapM fun word =>
    if word ∈ ["skip_bytes", "count_bytes"] ∨ quietFlags.contains word then .ok word
    else .error (.words s!"invalid input flag: {Naming.literal word}")
  let outFlags ← (piecesOf (valuesOf items ["oflag"])).mapM fun word =>
    if word = "seek_bytes" ∨ word = "append" ∨ quietFlags.contains word then .ok word
    else .error (.words s!"invalid output flag: {Naming.literal word}")
  let status ← (valuesOf items ["status"]).mapM fun word =>
    if word ∈ ["none", "noxfer", "progress"] then .ok word
    else .error (.words s!"invalid status level: {Naming.literal word}")
  let size (name : String) : Except Refusal (Option Nat) := do
    return (← numbers [name] 1).map Prod.snd
  let both ← size "bs"
  let readSize ← size "ibs"
  let writeSize ← size "obs"
  let recordSize ← size "cbs"
  let length (names : List String) (inBytes : Bool) : Except Refusal (Option Length) := do
    return (← numbers names 0).map fun e => ⟨e.2, inBytes || e.1.toList.getLast? = some 'B'⟩
  let skip ← length ["skip", "iseek"] (flags.contains "skip_bytes")
  let count ← length ["count"] (flags.contains "count_bytes")
  let seek ← length ["seek", "oseek"] (outFlags.contains "seek_bytes")
  let asked := conversions.filter fun c =>
    0 < recordSize.getD 0 || (c != .toRecords && c != .fromRecords)
  match clashes.find? fun c => asked.contains c.1 && asked.contains c.2.1 with
  | some (_, _, names) => throw (.plain ("cannot combine any two of \x7b" ++ names ++ "\x7d"))
  | none => pure ()
  return {
    input := (valuesOf items ["if"]).getLast?
    output := (valuesOf items ["of"]).getLast?
    readSize := both.getD (readSize.getD 512)
    writeSize := both.getD (writeSize.getD 512)
    recordSize := recordSize.getD 0
    skip := skip.getD ⟨0, false⟩
    count
    seek := seek.getD ⟨0, false⟩
    conversions := asked
    appends := outFlags.contains "append"
    silent := status.getLast? = some "none" }

/-! ## Conversions -/

/-- Neighbours change places; a last byte without one stays. -/
def swapPairs : List UInt8 → List UInt8
  | a :: b :: rest => b :: a :: swapPairs rest
  | rest => rest

/-- A text in pieces of one size; `fuel` bounds their number. -/
def piecesWithin (size : Nat) : Nat → List UInt8 → List (List UInt8)
  | fuel + 1, b :: rest =>
    (b :: rest).take size :: piecesWithin size fuel ((b :: rest).drop size)
  | _, _ => []

/-- Every line as a record of one length, without its line end. -/
def toRecords (size : Nat) (bytes : List UInt8) : List UInt8 :=
  let lines := bytes.splitOn lineFeed
  let lines := if lines.getLast? = some [] then lines.dropLast else lines
  lines.flatMap fun line =>
    let kept := line.take size
    kept ++ List.replicate (size - kept.length) 32

/-- Every record as a line without the blanks at its end. -/
def fromRecords (size : Nat) (bytes : List UInt8) : List UInt8 :=
  (piecesWithin size (bytes.length + 1) bytes).flatMap fun record =>
    (record.reverse.dropWhile (· = 32)).reverse ++ [lineFeed]

/-- The bytes that are written for those that are read. -/
def Task.convert (t : Task) (bytes : ByteArray) : ByteArray :=
  let has (c : Conversion) : Bool := t.conversions.contains c
  let records := 0 < t.recordSize
  let filler : UInt8 := if records && (has .toRecords || has .fromRecords) then 32 else 0
  let bytes :=
    if has .padded && bytes.size % t.readSize ≠ 0 then
      bytes ++ (List.replicate (t.readSize - bytes.size % t.readSize) filler).toByteArray
    else bytes
  let perByte := [.upper, .lower, .swapped, .toRecords, .fromRecords]
  if !t.conversions.any perByte.contains then
    bytes
  else
    let list := bytes.toList
    let list := if has .swapped then swapPairs list else list
    let list :=
      if has .upper then list.map toUpper
      else if has .lower then list.map toLower
      else list
    let list :=
      if !records then list
      else if has .toRecords then toRecords t.recordSize list
      else if has .fromRecords then fromRecords t.recordSize list
      else list
    list.toByteArray

/-! ## Places -/

/-- The longest place that can be reached in a file. -/
def farthest : Nat := 67108864

/-- What an output holds once it has been opened: what stands in front of the first block that is
written, and nothing if that is none. -/
def Task.opened (t : Task) (old : ByteArray) : ByteArray :=
  if t.conversions.contains .keepsRest then old
  else if t.seek.bytes t.writeSize < t.writeSize then .empty
  else
    let start := min farthest (t.seek.bytes t.writeSize)
    slice old 0 start ++ ⟨Array.replicate (start - old.size) 0⟩

def Task.taken (t : Task) (bytes : ByteArray) : ByteArray :=
  let start := t.skip.bytes t.readSize
  match t.count with
  | none => slice bytes start bytes.size
  | some count => slice bytes start (start + count.bytes t.readSize)

def Task.ofDevice (t : Task) (d : Device) : ByteArray :=
  match d, t.count with
  | .null, _ => .empty
  | _, some count => ⟨Array.replicate (min farthest (count.bytes t.readSize)) 0⟩
  | _, none => .empty

def tally (size : Nat) (bytes : Nat) : String :=
  s!"{bytes / size}+{if bytes % size = 0 then 0 else 1}"

def Task.summary (t : Task) (read written : Nat) (p : Progress) : Progress :=
  if t.silent then p
  else
    p.report (s!"{tally t.readSize read} records in\n{tally t.writeSize written} records out\n" ++
      s!"{written} bytes copied\n")

/-- The file that is written, opened and cut; an error says why it cannot be. -/
def Task.openOutput (t : Task) (name : String) (w : World) : Except FileFault World := do
  let found ← w.follow name
  match found with
  | .free _ =>
    if t.conversions.contains .mustExist then throw .notFound
    else w.save .replace name (t.opened .empty)
  | .file _ f =>
    if t.conversions.contains .mustNotExist then throw .alreadyThere
    else if t.appends ∧ t.conversions.contains .keepsRest then return w
    else w.save .replace name (t.opened f.bytes)
  | _ => w.save .replace name .empty

def Task.source (t : Task) (job : Job) (w : World) : Except FileFault ByteArray × ByteArray :=
  match t.input with
  | none =>
    let used := t.skip.bytes t.readSize +
      (t.count.map fun c => c.bytes t.readSize).getD job.input.bytes.size
    (.ok (t.taken job.input.bytes), slice job.input.bytes used job.input.bytes.size)
  | some name =>
    match w.follow name with
    | .ok (.device _ d) => (d.opened.map t.ofDevice, job.input.bytes)
    | _ =>
      match Source.ofOperands w job.input [name] with
      | [s] =>
        let bytes := if t.count.any (·.amount = 0) then .ok ByteArray.empty else s.contents
        (bytes.map t.taken, Tool.leftOver job [name])
      | _ => (.ok .empty, job.input.bytes)

/-- Says so where an output cannot be brought to a disk. -/
def Task.settle (t : Task) (name : String) (p : Progress) : Progress :=
  let onDisk : Bool := match p.world.follow name with
    | .ok (.file ..) => true
    | _ => false
  if t.conversions.contains .settled ∧ ¬ onDisk then
    p.fault s!"fsync failed for {Naming.always name}" .invalid
  else p

def Task.reading (t : Task) : String :=
  "error reading " ++ Naming.always (t.input.getD "standard input")

def Task.run (t : Task) (job : Job) (w : World) : ToolEnd × World :=
  let p := Progress.start job w
  let cannotOpen (name : String) (fault : FileFault) : ToolEnd × World :=
    (p.fault s!"failed to open {Naming.always name}" fault).finish
  let inputFault : Option (String × FileFault) := t.input.bind fun name =>
    match Source.ofOperands w job.input [name] with
    | [s] =>
      match s.contents with
      | .error .isFolder => none
      | .error fault => some (name, fault)
      | .ok _ => none
    | _ => none
  match inputFault, t.output with
  | some (name, fault), _ => cannotOpen name fault
  | none, none =>
    let (bytes, unread) := t.source job w
    let p := { p with unread }
    match bytes with
    | .error fault =>
      ((p.fault t.reading fault) |> t.summary 0 0).finish
    | .ok bytes =>
      if 0 < t.seek.amount then (p.complain "'standard output': cannot seek").finish
      else
        let out := t.convert bytes
        ((p.write out) |> t.settle "standard output" |> t.summary bytes.size out.size).finish
  | none, some name =>
    match t.openOutput name w with
    | .error fault => cannotOpen name fault
    | .ok opened =>
      let input := job.input.after w.files opened.files
      let w := opened
      let (bytes, unread) := t.source { job with input } w
      let p := { p with unread, world := w }
      match bytes with
      | .error fault =>
        ((p.fault t.reading fault) |> t.summary 0 0).finish
      | .ok bytes =>
        let out := t.convert bytes
        let position := min farthest (t.seek.bytes t.writeSize)
        let saved := match w.follow name with
          | .ok (.file _ f) =>
            let start := if t.appends then f.bytes.size else position
            w.save .replace name (overwrite f.bytes start out)
          | _ => w.save .replace name out
        match saved with
        | .ok w => ((p.into w) |> t.settle name |> t.summary bytes.size out.size).finish
        | .error fault =>
          ((p.fault s!"error writing {Naming.always name}" fault) |> t.summary bytes.size 0).finish

def dd : Tool := .withOptions (.of "" []) 1 fun o job w =>
  match Task.read o.operands with
  | .error (.words message) => (Tool.misused job message 1, w)
  | .error (.plain message) => (Tool.failing job message 1, w)
  | .ok t => t.run job w

end CommandShell.Blocks
