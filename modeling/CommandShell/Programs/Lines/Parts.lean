import CommandShell.Programs.Amount
import CommandShell.Programs.Sources

/-!
# Beginnings and ends

The tools that keep a beginning or an end of what they read.
-/
namespace CommandShell.Parts
open Bytes

/-- How much of a text to keep. -/
inductive Extent
  | first (n : Nat)
  | allButLast (n : Nat)
  | last (n : Nat)
  | startingAt (n : Nat)
  deriving DecidableEq, Repr

def Extent.cut {α : Type} (e : Extent) (items : List α) : List α :=
  match e with
  | first n => items.take n
  | allButLast n => items.take (items.length - n)
  | last n => items.drop (items.length - n)
  | startingAt n => items.drop (n - 1)

def Extent.cutBytes (e : Extent) (bytes : ByteArray) : ByteArray :=
  match e with
  | first n => Bytes.slice bytes 0 n
  | allButLast n => Bytes.slice bytes 0 (bytes.size - n)
  | last n => Bytes.slice bytes (bytes.size - n) bytes.size
  | startingAt n => Bytes.slice bytes (n - 1) bytes.size

/-- Pieces that end in a separator; the last one may do without. -/
def pieces (separator : UInt8) (bytes : ByteArray) : List (List UInt8) :=
  if separator = lineFeed then chunks bytes
  else
    let swap (b : UInt8) : UInt8 :=
      if b = separator then lineFeed else if b = lineFeed then separator else b
    (chunks (mapBytes swap bytes)).map (·.map swap)

/-- The part of some bytes that ends with the separator for the n-th time. -/
def firstPieces (separator : UInt8) (n : Nat) (bytes : ByteArray) : ByteArray :=
  let rec go (fuel position left : Nat) : Nat :=
    match fuel, left with
    | 0, _ => position
    | _, 0 => position
    | fuel + 1, left =>
      if position < bytes.size then
        go fuel (position + 1) (if bytes.get! position = separator then left - 1 else left)
      else position
  Bytes.slice bytes 0 (go bytes.size 0 n)

def Extent.keep (e : Extent) (byBytes : Bool) (separator : UInt8) (bytes : ByteArray) : ByteArray :=
  if byBytes then e.cutBytes bytes
  else
    match e with
    | first n => firstPieces separator n bytes
    | _ => join (e.cut (pieces separator bytes))

def suffixes : String := "bkKmMGTPEZY0"

/-- Reads a count, in front of which a sign can stand. -/
def readCount (plus minus plain : Nat → Extent) (text : String) : Except Amount.Fault Extent :=
  let amount (cs : List Char) : Except Amount.Fault Nat :=
    Amount.within 0 Amount.largest suffixes (String.ofList cs)
  match text.toList with
  | '+' :: rest => (amount rest).map plus
  | '-' :: rest => (amount rest).map minus
  | cs => (amount cs).map plain

def header (index : Nat) (name : String) : ByteArray :=
  let shown := if name = "-" then "standard input" else name
  ofText ((if index = 0 then "" else "\n") ++ "==> " ++ shown ++ " <==\n")

/-- What distinguishes the tool for beginnings from the tool for ends. -/
structure PartTool where
  table : OptionTable
  read : String → Except Amount.Fault Extent
  usual : Extent
  /-- What is left of the input when its part has been kept. -/
  unread : InputKind → (byBytes : Bool) → Extent → UInt8 → ByteArray → ByteArray

/-- Whether an extent is too large to be told from the end of a text of bytes. -/
def Extent.isTooLarge : Extent → Bool
  | allButLast n => Amount.largestSigned < n
  | _ => false

/-- What is asked for: whether bytes are counted, and how much is kept; or the complaint. -/
def PartTool.asked (p : PartTool) (o : Options) : Except String (Bool × Extent) :=
  match o.last? ["n", "c"] with
  | none => .ok (false, p.usual)
  | some (key, value) =>
    let value := value.getD ""
    let byBytes : Bool := key = "c"
    let refused (fault : Amount.Fault) : Except String (Bool × Extent) :=
      let shown :=
        if value.toList.head? = some '-' then String.ofList (value.toList.drop 1)
        else value
      .error (Amount.refusal (if byBytes then "number of bytes" else "number of lines") shown fault)
    match p.read value with
    | .error fault => refused fault
    | .ok e => if byBytes && e.isTooLarge then refused .tooLarge else .ok (byBytes, e)

def PartTool.run (p : PartTool) (o : Options) : Tool := fun job w =>
  match p.asked o with
  | .error complaint => (Tool.failing job complaint 1, w)
  | .ok (byBytes, extent) =>
    let separator : UInt8 := if o.has "z" then 0 else lineFeed
    let operands := Tool.operandsOrInput o.operands
    let sources := Source.ofOperands w job.input operands
    let titled := match o.lastKey? ["q", "v"] with
      | some "q" => false
      | some _ => true
      | none => 1 < sources.length
    let shown := sources.filter (!·.isMissing)
    let output := concat (shown.zipIdx.map fun e =>
      (if titled then header e.2 e.1.name else .empty) ++
        extent.keep byBytes separator (e.1.contents.toOption.getD .empty))
    let reports := sources.filterMap fun s =>
      match s.kind, s.contents with
      | .folder, .error fault =>
        some s!"{job.name}: error reading {Naming.always s.name}: {fault.wording}"
      | _, .error fault =>
        some s!"{job.name}: cannot open {Naming.always s.name} for reading: {fault.wording}"
      | _, .ok _ => none
    let unread := if operands.any Source.isInput then
        p.unread job.input.kind byBytes extent separator job.input.bytes
      else job.input.bytes
    (.of reports output (Source.status sources) unread, w)

/-! ## Beginnings -/

/-- How much is read from a pipe at one go. -/
def blockSize : Nat := 8192

/-- What is left of an input from which a beginning was kept. A file is left right behind it; a pipe
is read in blocks where lines are counted. -/
def unreadByHead (kind : InputKind) (byBytes : Bool) (e : Extent) (separator : UInt8)
    (bytes : ByteArray) : ByteArray :=
  let kept := (e.keep byBytes separator bytes).size
  match kind, byBytes, e with
  | .file _, _, _ => Bytes.slice bytes kept bytes.size
  | _, true, .first n => Bytes.slice bytes n bytes.size
  | _, false, .first n =>
    if n = 0 then bytes
    else Bytes.slice bytes ((kept + blockSize - 1) / blockSize * blockSize) bytes.size
  | _, _, _ => .empty

/-- A first word that is a hyphen and a number asks for that many lines, or bytes. -/
def headWords (args : List String) : List String :=
  match args with
  | [] => []
  | word :: rest =>
    match word.toList with
    | '-' :: cs =>
      let digits := cs.takeWhile Char.isDigit
      let letters := cs.drop digits.length
      if digits = [] ∨ ¬ letters.all (fun c => "cbkmlqvz".toList.contains c) then args
      else
        let sized := letters.filter fun c => "cbkml".toList.contains c
        let plain := letters.filter fun c => "qvz".toList.contains c
        let amount := String.ofList digits ++ match sized.getLast? with
          | some 'b' => "b"
          | some 'k' => "k"
          | some 'm' => "m"
          | _ => ""
        let key := if sized = [] ∨ sized.getLast? = some 'l' then "-n" else "-c"
        key :: amount :: plain.map (fun c => String.ofList ['-', c]) ++ rest
    | _ => args

def headTool : PartTool :=
  { table := .of "c:n:qvz" ["bytes= c", "lines= n", "quiet q", "silent q", "verbose v",
      "zero-terminated z"]
    read := readCount .first .allButLast .first
    usual := .first 10
    unread := unreadByHead }

def head : Tool := fun job w =>
  Tool.withOptions headTool.table 1 headTool.run { job with args := headWords job.args } w

/-! ## Ends -/

/-- The old way to ask for an end: a sign, a number and a letter, with at most one operand. -/
def tailWords (args : List String) : List String :=
  let old (word : String) : Option (List String) :=
    match word.toList with
    | sign :: cs =>
      if sign ≠ '+' ∧ sign ≠ '-' then none
      else
        let digits := cs.takeWhile Char.isDigit
        let letters := cs.drop digits.length
        let amount := String.ofList (sign :: if digits = [] then ['1', '0'] else digits)
        let amount := if sign = '-' then String.ofList (amount.toList.drop 1) else amount
        match letters with
        | [] => if digits = [] then none else some ["-n", amount]
        | ['l'] => some ["-n", amount]
        | ['c'] => if digits = [] ∧ sign = '-' then none else some ["-c", amount]
        | ['b'] => some ["-c", amount ++ "b"]
        | _ => none
    | [] => none
  match args with
  | [word] => (old word).getD args
  | [word, operand] =>
    if operand.length > 1 ∧ operand.startsWith "-" ∧ operand ≠ "--" then args
    else ((old word).map (· ++ [operand])).getD args
  | [word, "--", operand] => ((old word).map (· ++ ["--", operand])).getD args
  | _ => args

def tailTool : PartTool :=
  { table := .of "c:n:fFqs:vz" ["bytes= c", "lines= n", "quiet q", "silent q", "verbose v",
      "follow[=] f", "retry", "pid=", "sleep-interval= s", "max-unchanged-stats=",
      "zero-terminated z"]
    read := readCount .startingAt .last .last
    usual := .last 10
    unread := fun _ _ _ _ _ => .empty }

def tailMisuse? (args : List String) : Option Char :=
  args.findSome? fun word =>
    match word.toList with
    | '-' :: c :: _ => if c.isDigit then some c else none
    | _ => none

def tail : Tool := fun job w =>
  let args := tailWords job.args
  match if args = job.args then tailMisuse? (args.takeWhile (· ≠ "--")) else none with
  | some c =>
    match Options.read tailTool.table true args with
    | .error (.unknownLetter d) =>
      if c = d then (Tool.failing job s!"option used in invalid context -- {c}" 1, w)
      else (Tool.misused job (OptionFault.unknownLetter d).message 1, w)
    | _ => Tool.withOptions tailTool.table 1 tailTool.run { job with args } w
  | none => Tool.withOptions tailTool.table 1 tailTool.run { job with args } w

end CommandShell.Parts
