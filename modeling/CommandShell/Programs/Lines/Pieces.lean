import CommandShell.Programs.Lines.Parts
import CommandShell.Programs.Progress

/-!
# Pieces

The tool that puts the pieces of what it reads into files of their own, or writes one of them to its
output. The names of the files are counted up from a first one; where no width of the counted part
is asked for, it grows before it would have to start again.
-/
namespace CommandShell.Pieces
open Bytes

/-! ## Where to cut -/

/-- What a given number of pieces is made of. -/
inductive Share
  | bytes
  /-- Whole lines, which belong to the piece in which they start. -/
  | lines
  /-- Lines dealt out in turn. -/
  | turns
  deriving DecidableEq, Repr

inductive Cut
  | everyLines (n : Nat)
  | everyBytes (n : Nat)
  /-- Whole lines as long as they fit into so many bytes; longer ones are cut. -/
  | filled (n : Nat)
  | shares (s : Share) (n : Nat)
  /-- One share, counted from one. -/
  | oneShare (s : Share) (k n : Nat)
  deriving DecidableEq, Repr

def groupsOf {α : Type} (n : Nat) (items : List α) : List (List α) :=
  go items.length items
where
  go : Nat → List α → List (List α)
    | 0, _ => []
    | _, [] => []
    | fuel + 1, items => items.take n :: go fuel (items.drop n)

/-- The first piece of a text that is filled with whole lines. -/
def filledPiece (separator : UInt8) (n : Nat) (bytes : List UInt8) : List UInt8 :=
  if bytes.length < n then bytes
  else
    let window := bytes.take n
    let whole := (window.reverse.dropWhile (· ≠ separator)).reverse
    if whole = [] then window else whole

def filledPieces (separator : UInt8) (n : Nat) (bytes : List UInt8) : List (List UInt8) :=
  go bytes.length bytes
where
  go : Nat → List UInt8 → List (List UInt8)
    | 0, _ => []
    | _, [] => []
    | fuel + 1, bytes =>
      let piece := filledPiece separator n bytes
      piece :: go fuel (bytes.drop piece.length)

/-- The size of a share of a text; each has at least one byte. -/
def shareSize (total n : Nat) : Nat := max total n / n

/-- The share in which a position lies, counted from zero; the last one takes what is left over. -/
def shareOf (total n position : Nat) : Nat := min (n - 1) (position / shareSize total n)

def placed (lines : List (List UInt8)) : List (Nat × List UInt8) :=
  (lines.foldl (fun (acc : Nat × List (Nat × List UInt8)) line =>
    (acc.1 + line.length, (acc.1, line) :: acc.2)) (0, [])).2.reverse

/-- One share, counted from zero. -/
def share (separator : UInt8) (bytes : ByteArray) (s : Share) (n k : Nat) : ByteArray :=
  match s with
  | .bytes =>
    let size := shareSize bytes.size n
    slice bytes (k * size) (if k + 1 = n then bytes.size else (k + 1) * size)
  | .lines =>
    join (((placed (Parts.pieces separator bytes)).filter fun e =>
      shareOf bytes.size n e.1 = k).map Prod.snd)
  | .turns =>
    join (((Parts.pieces separator bytes).zipIdx.filter fun e => e.2 % n = k).map Prod.fst)

def Cut.files (c : Cut) (separator : UInt8) (bytes : ByteArray) : List ByteArray :=
  match c with
  | everyLines n => (groupsOf n (Parts.pieces separator bytes)).map join
  | everyBytes n => (groupsOf n bytes.toList).map List.toByteArray
  | filled n => (filledPieces separator n bytes.toList).map List.toByteArray
  | shares s n => (List.range n).map (share separator bytes s n)
  | oneShare .. => []

/-! ## Names -/

/-- How the names of pieces are counted. -/
structure Counting where
  digits : List Char
  /-- The digits of the first name; none if it has the first digit everywhere. -/
  start : List Char
  width : Nat
  grows : Bool
  ending : String

/-- The next digits: the last one is counted up, and starts again with a carry; none if all have
been used up. The digits are given from the last to the first. -/
def nextDigits (digits : List Char) : List Nat → Option (List Nat)
  | [] => none
  | d :: rest =>
    if d + 1 < digits.length then some ((d + 1) :: rest)
    else (nextDigits digits rest).map (0 :: ·)

/-- Where counting stands: what has become part of the stem, and the digits, the last one first. -/
structure Count where
  lead : List Char
  digits : List Nat

def Counting.first (c : Counting) : Count :=
  let given := (c.start.map fun d => c.digits.findIdx (· == d)).reverse
  ⟨[], given ++ List.replicate (c.width - given.length) 0⟩

/-- The next count. Where counting grows, it does so before the first digit would be the last one
there is. -/
def Counting.next? (c : Counting) (k : Count) : Option Count :=
  match nextDigits c.digits k.digits with
  | none => none
  | some digits =>
    match digits.getLast? with
    | some d =>
      if c.grows && d + 1 = c.digits.length then
        some ⟨k.lead ++ [c.digits.getD d 'z'], List.replicate (k.digits.length + 1) 0⟩
      else some { k with digits }
    | none => none

def Counting.name (c : Counting) (stem : String) (k : Count) : String :=
  stem ++ String.ofList (k.lead ++ k.digits.reverse.map fun d => c.digits.getD d ' ') ++ c.ending

/-! ## Options -/

def table : OptionTable :=
  .of "0123456789C:a:b:del:n:t:ux" ["bytes= b", "lines= l", "line-bytes= C", "number= n",
    "elide-empty-files e", "unbuffered u", "suffix-length= a", "additional-suffix=",
    "numeric-suffixes[=] d", "hex-suffixes[=] x", "filter=", "verbose", "separator= t"]

/-- A complaint, which may be one about how the tool was called. -/
structure Refusal where
  misused : Bool
  message : String

abbrev Asked := Except Refusal

def Refusal.fail {α : Type} (message : String) : Asked α := .error ⟨false, message⟩

def Refusal.misuse {α : Type} (message : String) : Asked α := .error ⟨true, message⟩

def amount (what allowed text : String) : Asked Nat :=
  match Amount.within 1 Amount.largest allowed text with
  | .ok n => .ok n
  | .error .outOfRange => Refusal.fail (Amount.refusal what text .malformed)
  | .error fault => Refusal.fail (Amount.refusal what text fault)

/-- Reads the number of shares, and which one of them is asked for if only one is. -/
def sharesOf (text : String) : Asked Cut :=
  let cs := text.toList.dropWhile Amount.isSpace
  let (kind, cs) := match cs with
    | 'r' :: '/' :: rest => (Share.turns, rest)
    | 'l' :: '/' :: rest => (Share.lines, rest)
    | cs => (Share.bytes, cs)
  let number (cs : List Char) : Asked Nat := amount "number of chunks" "" (String.ofList cs)
  let first := cs.takeWhile (· ≠ '/')
  match cs.drop first.length with
  | [] => do return .shares kind (← number cs)
  | _ :: second =>
    let wrong : Asked Cut :=
      Refusal.fail s!"invalid chunk number: {Naming.literal (String.ofList first)}"
    if first = [] then do return .shares kind (← number cs)
    else do
      let n ← number second
      match Amount.within 1 n "" (String.ofList first) with
      | .ok k => return .oneShare kind k n
      | .error _ => wrong

/-- How to cut; only one way may be given. Digits are a number of lines. -/
def cutOf (o : Options) : Asked Cut := do
  let isDigit (key : String) : Bool := match key.toList with
    | [c] => c.isDigit
    | _ => false
  let digits := (o.given.filter fun g => isDigit g.1).flatMap fun g => g.1.toList
  let ways := o.given.filter fun g => ["l", "b", "C", "n"].contains g.1
  match ways, digits with
  | [], [] => return .everyLines 1000
  | [], digits => return .everyLines (← amount "number of lines" "" (String.ofList digits))
  | [(key, value)], [] =>
    let text := value.getD ""
    match key with
    | "l" => return .everyLines (← amount "number of lines" "" text)
    | "b" => return .everyBytes (← amount "number of bytes" Parts.suffixes text)
    | "C" => return .filled (← amount "number of bytes" Parts.suffixes text)
    | _ => sharesOf text
  | _, _ => Refusal.misuse "cannot split in more than one way"

def separatorOf (o : Options) : Asked UInt8 := do
  let found ← (o.values "t").mapM fun text =>
    match bytesOf text with
    | [] => Refusal.fail "empty record separator"
    | [b] => pure b
    | _ =>
      if text = "\\0" then pure 0
      else Refusal.fail s!"multi-character separator {Naming.literal text}"
  match found with
  | [] => return lineFeed
  | b :: rest =>
    if rest.all (· == b) then return b else Refusal.fail "multiple separator characters specified"

/-- Names with so many counted characters are longer than any name can be. -/
def longestWidth : Nat := 4097

def digitsFor (base n : Nat) : Nat := go n n
where
  go : Nat → Nat → Nat
    | 0, _ => 1
    | fuel + 1, n => if n < base then 1 else go fuel (n / base) + 1

def letters : List Char := "abcdefghijklmnopqrstuvwxyz".toList
def decimals : List Char := "0123456789".toList
def hexadecimals : List Char := "0123456789abcdef".toList

/-- How names are counted where pieces are cut in a given way. -/
def countingOf (o : Options) (c : Cut) : Asked Counting := do
  let width? ← (o.value? "a").mapM fun text =>
    match Amount.within 0 (Amount.largest / 8) "" text with
    | .ok n => pure n
    | .error fault => Refusal.fail (Amount.refusal "suffix length" text fault)
  let ending := (o.value? "additional-suffix").getD ""
  if ending.toList.contains '/' then
    Refusal.misuse s!"invalid suffix {Naming.literal ending}, contains directory separator"
  let (digits, start) ← match o.last? ["d", "x"] with
    | none => pure (letters, [])
    | some (key, given) =>
      let (digits, what) :=
        if key = "d" then (decimals, "numerical") else (hexadecimals, "hexadecimal")
      let text := given.getD ""
      if ¬ text.toList.all digits.contains then
        Refusal.misuse s!"{Naming.literal text}: invalid start value for {what} suffix"
      let zeros := text.toList.takeWhile (· = '0')
      pure (digits,
        if zeros.length = text.length then zeros.take 1 else text.toList.drop zeros.length)
  let needed := match c with
    | .shares _ n | .oneShare _ _ n =>
      let first := readDigits start
      digitsFor digits.length (n - 1 + if first < n then first else 0)
    | _ => 0
  let width := min longestWidth ((width?.filter (· ≠ 0)).getD (max 2 needed))
  if width < needed then
    Refusal.fail s!"the suffix length needs to be at least {needed}"
  if width < start.length then
    Refusal.misuse "numerical suffix start value is too large for the suffix length"
  let counted := (width?.filter (· ≠ 0)).isSome || needed ≠ 0 || start ≠ []
  return ⟨digits, start, width, !counted, ending⟩

/-! ## The tool -/

def usedUp : String := "output file suffixes exhausted"

def Cut.namesFirst : Cut → Bool
  | shares .turns _ => true
  | _ => false

def Counting.suffices (c : Counting) (pieces : Nat) : Bool :=
  go pieces (some c.first)
where
  go : Nat → Option Count → Bool
    | 0, _ => true
    | _ + 1, none => false
    | n + 1, some k => go n (c.next? k)

/-- Writes pieces to files, one after the other; the first that fails is the last. -/
def writeFiles (c : Counting) (stem : String) (verbose : Bool) (taken : Option Nat) :
    Option Count → List ByteArray → Progress → Progress
  | _, [], p => p
  | none, _ :: _, p => p.complain usedUp
  | some k, piece :: rest, p =>
    if longestWidth ≤ k.digits.length then
      p.complain s!"{Naming.ifNeeded stem}: File name too long"
    else
      let name := c.name stem k
      let p := if verbose then p.print s!"creating file {Naming.always name}" else p
      let isTaken : Bool := match p.world.follow name with
        | .ok (.file _ f) => taken == some f.identity
        | _ => false
      if isTaken then p.complain s!"{Naming.always name} would overwrite input; aborting"
      else
        match p.world.save .replace name piece with
        | .ok w => writeFiles c stem verbose taken (c.next? k) rest (p.into w)
        | .error fault => p.fault (Naming.ifNeeded name) fault

def split : Tool := .withOptions table 1 fun o job w =>
  let asked : Asked (Cut × UInt8 × Counting) := do
    let c ← cutOf o
    return (c, ← separatorOf o, ← countingOf o c)
  match asked, o.operands with
  | .error r, _ =>
    (if r.misused then Tool.misused job r.message 1 else Tool.failing job r.message 1, w)
  | .ok _, _ :: _ :: extra :: _ =>
    (Tool.misused job s!"extra operand {Naming.literal extra}" 1, w)
  | .ok (c, separator, counting), operands =>
    let name := operands.headD "-"
    let stem := (operands.drop 1).headD "x"
    match Source.ofOperands w job.input [name] with
    | [⟨_, kind, .error fault⟩] =>
      let message := if kind = .folder then s!"{Naming.ifNeeded name}: {fault.wording}"
        else s!"cannot open {Naming.always name} for reading: {fault.wording}"
      (Tool.failing job message 1, w)
    | [⟨_, _, .ok bytes⟩] =>
      match c with
      | .oneShare s k n =>
        (.of [] (share separator bytes s n (k - 1)) 0 (Tool.leftOver job [name]), w)
      | c =>
        let taken := match w.follow name with
          | .ok (.file _ f) => some f.identity
          | _ => none
        let pieces := c.files separator bytes
        let pieces := if o.has "e" then pieces.filter (!·.isEmpty) else pieces
        let p : Progress := { Progress.start job w with unread := Tool.leftOver job [name] }
        if c.namesFirst && !counting.suffices pieces.length then
          (p.complain usedUp).finish
        else
          let first := some counting.first
          (writeFiles counting stem (o.has "verbose") taken first pieces p).finish
    | _ => (Tool.failing job "no input" 1, w)

end CommandShell.Pieces
