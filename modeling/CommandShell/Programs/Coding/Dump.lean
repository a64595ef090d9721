import CommandShell.Programs.Amount
import CommandShell.Programs.Number.Real
import CommandShell.Programs.Sources

/-!
# Dumps

The tool that shows bytes as numbers or characters, in rows of so many bytes, each row with the
place where it starts. A row that is equal to the one before is left out, and a star shows that rows
are missing.
-/
namespace CommandShell.Dump
open Bytes

/-! ## Forms -/

/-- What a form makes of the bytes of a field. -/
inductive Kind
  | named
  | character
  | signed
  | unsigned
  | octal
  | hexadecimal
  | real
  deriving DecidableEq

/-- A form of a row: the bytes of a field, and whether the characters follow. -/
structure Form where
  kind : Kind
  size : Nat
  trailer : Bool

def Form.width (f : Form) : Nat :=
  let table := match f.kind with
    | .named => [3, 3]
    | .character => [3, 3]
    | .octal => [0, 3, 6, 8, 11, 14, 16, 19, 22]
    | .signed => [1, 4, 6, 8, 11, 13, 16, 18, 20]
    | .unsigned => [0, 3, 5, 8, 10, 13, 15, 17, 20]
    | .hexadecimal => [0, 2, 4, 6, 8, 10, 12, 14, 16]
    | .real => [0, 0, 0, 0, 15, 0, 0, 0, 24]
  table.getD f.size 0

/-- The size that a letter behind a type stands for, and the rest. -/
def sizeOf? (kind : Kind) (usual : Nat) (cs : List Char) : Option (Nat × List Char) :=
  let digits := cs.takeWhile Char.isDigit
  let known (n : Nat) : Bool := if kind = .real then n = 4 || n = 8 else [1, 2, 4, 8].contains n
  if digits ≠ [] then
    let n := readDigits digits
    if known n then some (n, cs.drop digits.length) else none
  else
    match kind, cs with
    | .real, 'F' :: rest => some (4, rest)
    | .real, 'D' :: rest => some (8, rest)
    | .real, cs => some (usual, cs)
    | _, 'C' :: rest => some (1, rest)
    | _, 'S' :: rest => some (2, rest)
    | _, 'I' :: rest => some (4, rest)
    | _, 'L' :: rest => some (8, rest)
    | _, cs => some (usual, cs)

/-- Reads a text of types; `fuel` bounds their number. -/
def formsWithin : Nat → List Char → Option (List Form)
  | 0, _ => none
  | _, [] => some []
  | fuel + 1, c :: rest =>
    let finish (kind : Kind) (size : Nat) (rest : List Char) : Option (List Form) :=
      match rest with
      | 'z' :: rest => (formsWithin fuel rest).map (⟨kind, size, true⟩ :: ·)
      | rest => (formsWithin fuel rest).map (⟨kind, size, false⟩ :: ·)
    let sized (kind : Kind) (usual : Nat) : Option (List Form) :=
      (sizeOf? kind usual rest).bind fun e => finish kind e.1 e.2
    match c with
    | 'a' => finish .named 1 rest
    | 'c' => finish .character 1 rest
    | 'd' => sized .signed 4
    | 'u' => sized .unsigned 4
    | 'o' => sized .octal 4
    | 'x' => sized .hexadecimal 4
    | 'f' => sized .real 8
    | _ => none

def forms? (text : String) : Option (List Form) :=
  if text = "" then none else formsWithin (text.length + 1) text.toList

/-! ## Fields -/

def names : List String :=
  ["nul", "soh", "stx", "etx", "eot", "enq", "ack", "bel", "bs", "ht", "nl", "vt", "ff", "cr", "so",
    "si", "dle", "dc1", "dc2", "dc3", "dc4", "nak", "syn", "etb", "can", "em", "sub", "esc", "fs",
    "gs", "rs", "us", "sp"]

def nameOf (b : UInt8) : String :=
  let n := b.toNat % 128
  if n = 127 then "del" else names.getD n (Char.ofNat n).toString

/-- Digits of a number in a base with zeros in front up to a width. -/
def padded (base width n : Nat) : String :=
  let digits := Nat.toDigits base n
  String.ofList (List.replicate (width - digits.length) '0' ++ digits)

def characterOf (b : UInt8) : String :=
  match b.toNat with
  | 0 => "\\0"
  | 7 => "\\a"
  | 8 => "\\b"
  | 9 => "\\t"
  | 10 => "\\n"
  | 11 => "\\v"
  | 12 => "\\f"
  | 13 => "\\r"
  | n => if 32 ≤ n ∧ n ≤ 126 then (Char.ofNat n).toString else padded 8 3 n

/-- The number that bytes stand for, the least of them first. -/
def numberOf (bytes : List UInt8) : Nat := bytes.foldr (fun b n => 256 * n + b.toNat) 0

def single : Real.Keeping := ⟨24, 1, -149, 127⟩

/-- The number with a fraction whose bits are those of a whole number. -/
def realOf (size n : Nat) : Real :=
  let fraction : Nat := if size = 4 then 23 else 52
  let exponent : Nat := if size = 4 then 8 else 11
  let negative : Bool := n / Nat.pow 2 (fraction + exponent) % 2 = 1
  let e := n / Nat.pow 2 fraction % Nat.pow 2 exponent
  let m := n % Nat.pow 2 fraction
  let bias : Int := Nat.pow 2 (exponent - 1) - 1
  if e = Nat.pow 2 exponent - 1 then (if m = 0 then .infinite negative else .nan negative)
  else
    let (m, shift) : Nat × Int := if e = 0 then (m, 1 - bias - fraction)
      else (m + Nat.pow 2 fraction, e - bias - fraction)
    if 0 ≤ shift then .finite negative (m * Nat.pow 2 shift.toNat) 1
    else .finite negative m (Nat.pow 2 (-shift).toNat)

/-- The shortest text that is read back as the same number. -/
def shortest (size : Nat) (x : Real) : String :=
  match x with
  | .nan negative => if negative then "-nan" else "nan"
  | .infinite negative => if negative then "-inf" else "inf"
  | .finite negative num den =>
    let keeping := if size = 4 then single else .short
    let least := Nat.pow 2 (if size = 4 then 126 else 1022)
    let small := Real.less (.finite false num den) (.finite false 1 least)
    let least := if small then 1 else if size = 4 then 6 else 15
    let tries := (List.range 18).drop least
    let text (digits : Nat) : List Char := Real.general false digits num den
    let same (digits : Nat) : Bool :=
      match Real.read? (text digits) with
      | some (y, _) => Real.same (y.rounded keeping) (.finite false num den)
      | none => false
    let found := text ((tries.find? same).getD 17)
    String.ofList (if negative then '-' :: found else found)

def Form.field (f : Form) (bytes : List UInt8) : String :=
  let n := numberOf bytes
  match f.kind with
  | .named => nameOf (bytes.headD 0)
  | .character => characterOf (bytes.headD 0)
  | .octal => padded 8 f.width n
  | .hexadecimal => padded 16 f.width n
  | .unsigned => toString n
  | .signed =>
    let top := Nat.pow 2 (8 * f.size - 1)
    if n < top then toString n else s!"-{2 * top - n}"
  | .real => shortest f.size (realOf f.size n)

/-! ## Rows -/

structure Layout where
  forms : List Form
  /-- The bytes of a row. -/
  length : Nat
  /-- The base in which places are shown; none if they are not. -/
  base : Option Nat
  /-- Whether equal rows are left out. -/
  folds : Bool
  /-- Whether the first byte of a field is the greatest. -/
  greatestFirst : Bool

namespace Layout

def address (l : Layout) (place : Nat) : String :=
  match l.base with
  | none => ""
  | some 16 => padded 16 6 place
  | some base => padded base 7 place

def width (l : Layout) : Nat :=
  l.forms.foldl (fun n f => max n ((f.width + 1) * (l.length / f.size))) 0

def shows (b : UInt8) : Bool := 32 ≤ b && b ≤ 126

/-- A row in one form. What is added to the fields, so that all forms have one width, is spread over
them. -/
def row (l : Layout) (f : Form) (bytes : List UInt8) : String :=
  let count := l.length / f.size
  let used := count - (l.length - bytes.length) / f.size
  let extra := l.width - f.width * count
  let filled := bytes ++ List.replicate (f.size - 1) 0
  let cell (i : Nat) : String :=
    let part := (filled.drop (i * f.size)).take f.size
    let text := f.field (if l.greatestFirst then part.reverse else part)
    let before := extra * (count - i) / count
    let behind := extra * (count - i - 1) / count
    let wide := before - behind + f.width
    String.ofList (List.replicate (wide - text.length) ' ') ++ text
  let trailer :=
    if f.trailer then
      let gap := (count - used) * (f.width + 1)
      let shown := bytes.map fun b => if shows b then Char.ofNat b.toNat else '.'
      String.ofList (List.replicate gap ' ') ++ "  >" ++ String.ofList shown ++ "<"
    else ""
  String.join ((List.range used).map cell) ++ trailer

def rows (l : Layout) (place : Nat) (bytes : List UInt8) : String :=
  let start := l.address place
  let gap := String.ofList (List.replicate start.length ' ')
  String.join (l.forms.zipIdx.map fun (f, i) =>
    (if i = 0 then start else gap) ++ l.row f bytes ++ "\n")

/-- The rows of a dump; `fuel` bounds their number. -/
def dumpFrom (l : Layout) : Nat → Nat → Option (List UInt8) → Bool → List UInt8 → List String
  | 0, _, _, _, _ => []
  | fuel + 1, place, before, folded, bytes =>
    if bytes = [] then (if l.base.isNone then [] else [l.address place ++ "\n"])
    else
      let part := bytes.take l.length
      let rest := bytes.drop l.length
      let next (folded : Bool) : List String :=
        dumpFrom l fuel (place + part.length) (some part) folded rest
      if l.folds ∧ before = some part ∧ part.length = l.length then
        if folded then next true else "*\n" :: next true
      else l.rows place part :: next false

def dump (l : Layout) (place : Nat) (bytes : List UInt8) : ByteArray :=
  concat ((l.dumpFrom (bytes.length + 2) place none false bytes).map ofText)

/-- The texts of at least so many characters that a null byte ends, with their places. -/
def strings (l : Layout) (least : Nat) (place : Nat) (bytes : List UInt8) : ByteArray :=
  let step (acc : List String × List UInt8 × Nat) (b : UInt8) : List String × List UInt8 × Nat :=
    let (found, run, at_) := acc
    if shows b then (found, b :: run, at_ + 1)
    else if b = 0 ∧ least ≤ run.length then
      let text := String.ofList (run.reverse.map fun b => Char.ofNat b.toNat)
      let start := l.address (at_ - run.length)
      ((start ++ (if start = "" then "" else " ") ++ text ++ "\n") :: found, [], at_ + 1)
    else (found, [], at_ + 1)
  ofText (String.join (bytes.foldl step ([], [], place)).1.reverse)

end Layout

/-! ## The tool -/

/-- A number in decimal, octal or hexadecimal digits, with a suffix. -/
def amount? (text : String) : Option Nat :=
  let digit (base : Nat) (c : Char) : Bool :=
    if base = 16 then Real.isHexDigit c else c.isDigit && c.toNat < 48 + base
  let of (base : Nat) (cs : List Char) : Option Nat :=
    let ds := cs.takeWhile (digit base)
    let suffix := String.ofList ('1' :: cs.drop ds.length)
    if ds = [] then none
    else (Amount.read? "bKkMmGTPEZY0" suffix).map (Real.ofDigits base ds * ·)
  match text.toList with
  | '0' :: 'x' :: cs => of 16 cs
  | '0' :: 'X' :: cs => of 16 cs
  | '0' :: c :: cs => if c.isDigit then of 8 (c :: cs) else of 10 ('0' :: c :: cs)
  | cs => of 10 cs

/-- An offset as an operand: octal unless a point or a base says otherwise. -/
def offset? (text : String) : Option Nat :=
  let cs := if text.toList.head? = some '+' then text.toList.drop 1 else text.toList
  let (blocks, cs) :=
    if cs.getLast? = some 'b' ∧ cs.take 2 ≠ ['0', 'x'] then (512, cs.dropLast)
    else (1, cs)
  let of (base : Nat) (cs : List Char) : Option Nat :=
    let good := cs.all fun c =>
      if base = 16 then Real.isHexDigit c else c.isDigit && c.toNat < 48 + base
    if cs = [] ∨ ¬ good then none else some (blocks * Real.ofDigits base cs)
  match cs with
  | '0' :: 'x' :: rest => of 16 rest
  | cs => if cs.getLast? = some '.' then of 10 cs.dropLast else of 8 cs

def traditional : List (String × String) :=
  [("a", "a"), ("b", "o1"), ("c", "c"), ("d", "u2"), ("f", "fF"), ("h", "x2"), ("i", "dI"),
    ("l", "dL"), ("o", "o2"), ("s", "d2"), ("x", "x2"), ("B", "o2"), ("D", "u4"), ("e", "fD"),
    ("F", "fD"), ("H", "x4"), ("I", "dL"), ("L", "dL"), ("O", "o4"), ("X", "x4")]

def table : OptionTable :=
  .of "A:aBbcDdeFfHhIij:LlN:OoS:st:vw::Xx" ["skip-bytes= j", "address-radix= A", "read-bytes= N",
    "format= t", "output-duplicates v", "strings[=] S", "traditional", "width[=] w", "endian="]

def formsOf (o : Options) : Except String (List Form) := do
  let found ← o.given.mapM fun g =>
    let text := if g.1 = "t" then g.2 else traditional.lookup g.1
    match text with
    | none => pure []
    | some "" => pure []
    | some text =>
      match forms? text with
      | some fs => pure fs
      | none => throw s!"invalid type string {Naming.literal text}"
  return if found.flatten = [] then [⟨.octal, 2, false⟩] else found.flatten

def numberGiven (o : Options) (key : String) : Except String (Option Nat) :=
  match o.value? key with
  | none => .ok none
  | some text =>
    match amount? text with
    | some n =>
      if n ≤ Amount.largest then .ok (some n)
      else .error s!"-{key} argument {Naming.literal text} too large"
    | none => .error s!"invalid -{key} argument {Naming.literal text}"

/-- The layout that options ask for, and what is to be said about it. -/
def layoutOf (o : Options) : Except String (Layout × List String) := do
  let forms ← formsOf o
  let unit := forms.foldl (fun n f => Nat.lcm n f.size) 1
  let wanted ← match o.last? ["w"] with
    | none => pure (unit * (16 / unit))
    | some (_, none) => pure 32
    | some (_, some text) =>
      match amount? text with
      | some n => pure n
      | none => throw s!"invalid -w argument {Naming.literal text}"
  let good : Bool := wanted ≠ 0 ∧ wanted % unit = 0
  let base ← match (o.value? "A").map fun t => t.toList.head? with
    | none => pure (some 8)
    | some (some 'o') => pure (some 8)
    | some (some 'd') => pure (some 10)
    | some (some 'x') => pure (some 16)
    | some (some 'n') => pure none
    | _ => throw "invalid output address radix; it must be one character from [doxn]"
  let warning := s!"warning: invalid width {wanted}; using {unit} instead"
  return (⟨forms, if good then wanted else unit, base, !o.has "v", o.value? "endian" = some "big"⟩,
    if good then [] else [warning])

/-- The operands that name files, and the offset that another one gives. -/
def operandsOf (o : Options) : List String × Option Nat :=
  let isOffset (text : String) (orDigit : Bool) : Bool :=
    match text.toList.head? with
    | some '+' => true
    | some c => orDigit && c.isDigit
    | none => false
  if o.hasAny ["A", "j", "N", "S", "t", "v", "w"] then (o.operands, none)
  else
    match o.operands with
    | [a] =>
      if isOffset a false ∧ (offset? a).isSome then ([], offset? a) else ([a], none)
    | [a, b] =>
      if isOffset b true ∧ (offset? b).isSome then ([a], offset? b) else ([a, b], none)
    | operands => (operands, none)

def dumpWith (o : Options) : Tool := fun job w =>
  let (names, offset) := operandsOf o
  Tool.reading (fun o job sources =>
    let result : Except String Answer := do
      let (layout, warnings) ← layoutOf o
      let skip := (← numberGiven o "j").or offset |>.getD 0
      let most ← numberGiven o "N"
      let least ← match o.last? ["S"] with
        | none => pure none
        | some (_, none) => pure (some 3)
        | some (_, some text) =>
          match amount? text with
          | some n => pure (some n)
          | none => throw s!"invalid -S argument {Naming.literal text}"
      let all := (Source.joined sources).toList
      if all.length < skip then throw "cannot skip past end of combined input"
      let rest := all.drop skip
      let shown := match most with
        | none => rest
        | some n => rest.take n
      let output := if sources.all Source.isMissing then .empty else match least with
        | none => layout.dump skip shown
        | some least => layout.strings least skip shown
      let warned := warnings.map fun t => s!"{job.name}: {t}"
      return ⟨warned ++ Source.complaints job.name sources, output,
        Source.status sources⟩
    match result with
    | .ok answer => answer
    | .error message => ⟨[s!"{job.name}: {message}"], .empty, 1⟩) { o with operands := names } job w

def od : Tool := .withOptions table 1 dumpWith

end CommandShell.Dump
