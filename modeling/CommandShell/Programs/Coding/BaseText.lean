import CommandShell.Programs.Amount
import CommandShell.Programs.Sources

/-!
# Bytes as letters

Notations that write bytes with the letters of an alphabet of 32 or 64, in groups that stand for
whole bytes; a group that is not full is filled up with equals signs. Others write the digits of
each byte. Reading skips line ends, and gives what could be read before a fault.
-/
namespace CommandShell.BaseText
open Bytes

/-- An alphabet: its letters, how many bits each stands for, and how many letters make a group. -/
structure Alphabet where
  letters : List UInt8
  bits : Nat
  group : Nat

def base64 : Alphabet :=
  ⟨bytesOf "ABCDEFGHIJKLMNOPQRSTUVWXYZabcdefghijklmnopqrstuvwxyz0123456789+/", 6, 4⟩

def base32 : Alphabet := ⟨bytesOf "ABCDEFGHIJKLMNOPQRSTUVWXYZ234567", 5, 8⟩

def filler : UInt8 := 61

namespace Alphabet

def size (a : Alphabet) : Nat := a.bits * a.group / 8

def lettersFor (a : Alphabet) (bytes : Nat) : Nat := (8 * bytes + a.bits - 1) / a.bits

def numberOf (base : Nat) (digits : List Nat) : Nat := digits.foldl (fun n d => base * n + d) 0

/-- The letters of a group, which is filled up. -/
def encodeGroup (a : Alphabet) (bytes : List UInt8) : List UInt8 :=
  let full := bytes.map UInt8.toNat ++ List.replicate (a.size - bytes.length) 0
  let n := numberOf 256 full
  let needed := a.lettersFor bytes.length
  (List.range a.group).map fun i =>
    if i < needed then a.letters.getD (n >>> (a.bits * (a.group - 1 - i)) % Nat.pow 2 a.bits) filler
    else filler

/-- The pieces of an array, each of the same size but the last. -/
def slices (size : Nat) (bytes : ByteArray) : List (List UInt8) :=
  (List.range ((bytes.size + size - 1) / size)).map fun i =>
    (Bytes.slice bytes (size * i) (size * i + size)).toList

def encode (a : Alphabet) (bytes : ByteArray) : ByteArray :=
  join ((slices a.size bytes).map a.encodeGroup)

def valueOf? (a : Alphabet) (letter : UInt8) : Option Nat :=
  match a.letters.findIdx (· == letter) with
  | i => if i < a.letters.length then some i else none

/-- How many letters a group can have in front of its fillers: those that some number of bytes
needs. -/
def endings (a : Alphabet) : List Nat := (List.range (a.size + 1)).map a.lettersFor |>.drop 1

/-- The bytes of a group as far as it is right, and whether all of it is. A group that is not full
can be right in so far as its first letters give whole bytes. -/
def decodeGroup (a : Alphabet) (group : List UInt8) : List UInt8 × Bool :=
  let values := (group.map a.valueOf?).takeWhile Option.isSome |>.filterMap fun v => v
  let fillers := group.drop values.length
  let right := group.length = a.group && fillers.all (· == filler) &&
    a.endings.contains values.length
  let n := numberOf (Nat.pow 2 a.bits) (values ++ List.replicate (a.group - values.length) 0)
  let whole := ((a.endings.filter (· ≤ values.length)).length)
  ((List.range whole).map fun i => UInt8.ofNat (n >>> (a.bits * a.group - 8 * (i + 1))), right)

/-- Reads groups up to the first that is not right. Of a group of more than four letters nothing is
given where letters are missing. -/
def decodeGroups (a : Alphabet) : List (List UInt8) → List (List UInt8) × Bool
  | [] => ([], true)
  | group :: rest =>
    let (bytes, right) := a.decodeGroup group
    if right then
      let (more, right) := decodeGroups a rest
      (bytes :: more, right)
    else (if a.group ≤ max 4 group.length then [bytes] else [], false)

/-- What letters stand for, and whether all of them could be read. -/
def decode (a : Alphabet) (bytes : ByteArray) : ByteArray × Bool :=
  let (found, right) := a.decodeGroups (slices a.group bytes)
  (join found, right)

end Alphabet

/-! ## Notations -/

/-- A way to write bytes. -/
structure Form where
  /-- The written form; none where there is none for so many bytes. -/
  encode : ByteArray → Option ByteArray
  /-- What can be read of a written form, and whether all of it could be read. -/
  decode : ByteArray → ByteArray × Bool
  /-- Whether a byte belongs to the notation. -/
  isLetter : UInt8 → Bool

def withoutLineEnds (bytes : ByteArray) : ByteArray :=
  (bytes.toList.filter (· != lineFeed)).toByteArray

def Alphabet.form (a : Alphabet) : Form where
  encode := fun bytes => some (a.encode bytes)
  decode := fun bytes => a.decode (withoutLineEnds bytes)
  isLetter := fun b => (a.valueOf? b).isSome

/-- The letter at the same position of another alphabet; other bytes stay. -/
def exchange (a b : List UInt8) (letter : UInt8) : UInt8 :=
  match a.findIdx (· == letter) with
  | i => b.getD i letter

/-- The form of an alphabet with other letters in its place. Letters of the alphabet that the others
leave out are read too, unless `strict` forbids them. -/
def Alphabet.formWith (a : Alphabet) (letters : List UInt8) (strict : Bool) : Form where
  encode := fun bytes => some (mapBytes (exchange a.letters letters) (a.encode bytes))
  decode := fun bytes =>
    let forbidden (b : UInt8) : Bool := strict && a.letters.contains b && !letters.contains b
    if bytes.toList.any forbidden then (.empty, false)
    else a.decode (withoutLineEnds (mapBytes (exchange letters a.letters) bytes))
  isLetter := letters.contains

def base64url : Form := base64.formWith (base64.letters.take 62 ++ bytesOf "-_") true

def base32hex : Form := base32.formWith (bytesOf "0123456789ABCDEFGHIJKLMNOPQRSTUV") false

/-- Digits of one base, a fixed number for each byte; `order` puts them into another order. -/
def digitsForm (digits : List UInt8) (count : Nat) (order : List UInt8 → List UInt8) : Form where
  encode := fun bytes => some <| join <| bytes.toList.map fun b =>
    order ((List.range count).map fun i =>
      digits.getD (b.toNat / Nat.pow digits.length (count - 1 - i) % digits.length) 48)
  decode := fun bytes =>
    let given := bytes.toList.filter (· != lineFeed)
    let right := given.takeWhile digits.contains
    let groups := (Alphabet.slices count right.toByteArray).filter (·.length = count)
    let values := groups.map fun g =>
      UInt8.ofNat (Alphabet.numberOf digits.length ((order g).map fun d => digits.findIdx (· == d)))
    (values.toByteArray, right.length = given.length && right.length % count = 0)
  isLetter := digits.contains

def base16 : Form := digitsForm (bytesOf "0123456789ABCDEF") 2 id

/-- Bits, the highest one first. -/
def base2msbf : Form := digitsForm (bytesOf "01") 8 id

/-- Bits, the lowest one first. -/
def base2lsbf : Form := digitsForm (bytesOf "01") 8 List.reverse

/-- The letters that stand for the digits of base 85. -/
def letters85 : List UInt8 :=
  bytesOf ("0123456789abcdefghijklmnopqrstuvwxyzABCDEFGHIJKLMNOPQRSTUVWXYZ" ++
    ".-:+=^!/*?&<>()[]\x7b\x7d@%$#")

def z85 : Form where
  encode := fun bytes =>
    if bytes.size % 4 ≠ 0 then none
    else some <| join <| (Alphabet.slices 4 bytes).map fun g =>
      let n := Alphabet.numberOf 256 (g.map UInt8.toNat)
      (List.range 5).map fun i => letters85.getD (n / Nat.pow 85 (4 - i) % 85) 48
  decode := fun bytes =>
    let groups := Alphabet.slices 5 (withoutLineEnds bytes)
    let values := groups.map fun g =>
      let digits := g.map fun d => letters85.findIdx (· == d)
      let n := Alphabet.numberOf 85 digits
      if g.length = 5 ∧ digits.all (· < 85) ∧ n < Nat.pow 2 32 then some n else none
    let right := (values.takeWhile Option.isSome).filterMap fun v => v
    (join (right.map fun n => (List.range 4).map fun i => UInt8.ofNat (n / Nat.pow 256 (3 - i))),
      right.length = groups.length)
  isLetter := letters85.contains

/-! ## The tools -/

/-- Lines of so many bytes, each with a line feed; in one piece where the width is zero. -/
def wrapped (width : Nat) (bytes : ByteArray) : ByteArray :=
  if width = 0 then bytes else unlines (Alphabet.slices width bytes)

/-- How wide lines are; zero stands for no limit. -/
def widthOf (o : Options) : Except String Nat :=
  match o.value? "w" with
  | none => .ok 76
  | some text =>
    match Amount.read? "" text with
    | some n => .ok (if n ≤ Amount.largestSigned then n else 0)
    | none => .error s!"invalid wrap size: {Naming.literal text}"

def convert (f : Form) (o : Options) (width : Nat) (bytes : ByteArray) :
    ByteArray × Option String :=
  if o.has "d" then
    let kept := if o.has "i" then
        (bytes.toList.filter fun b => f.isLetter b || b == filler).toByteArray
      else bytes
    let (found, right) := f.decode kept
    (found, if right then none else some "invalid input")
  else
    match f.encode bytes with
    | some written => (wrapped width written, none)
    | none => (.empty, some "invalid input (length must be multiple of 4 characters)")

/-- Converts the only operand, or the input. -/
def run (f : Form) (width : Nat) (o : Options) : Tool := fun job w =>
  match o.operands with
  | _ :: second :: _ => (Tool.misused job s!"extra operand {Naming.literal second}" 1, w)
  | _ =>
    Tool.reading (fun o job sources =>
      match sources.map Source.contents with
      | [.ok bytes] =>
        let (found, complaint) := convert f o width bytes
        ⟨complaint.toList.map fun c => s!"{job.name}: {c}", found,
          if complaint.isNone then 0 else 1⟩
      | [.error .isFolder] => ⟨[s!"{job.name}: read error: Is a directory"], .empty, 1⟩
      | _ => ⟨Source.complaints job.name sources, .empty, 1⟩) o job w

def words : List String := ["decode d", "ignore-garbage i", "wrap= w"]

def tool (a : Alphabet) : Tool := .withOptions (.of "diw:" words) 1 fun o job w =>
  match widthOf o with
  | .error message => (Tool.failing job message 1, w)
  | .ok width => run a.form width o job w

def forms : List (String × Form) :=
  [("base64", base64.form), ("base64url", base64url), ("base32", base32.form),
    ("base32hex", base32hex), ("base16", base16), ("base2msbf", base2msbf),
    ("base2lsbf", base2lsbf), ("z85", z85)]

/-- The tool that is told which form to take; the last one counts. -/
def basenc : Tool := .withOptions (.of "diw:" (words ++ forms.map Prod.fst)) 1 fun o job w =>
  match widthOf o, (o.lastKey? (forms.map Prod.fst)).bind fun key => forms.lookup key with
  | .error message, _ => (Tool.failing job message 1, w)
  | .ok _, none => (Tool.misused job "missing encoding type" 1, w)
  | .ok width, some f => run f width o job w

end CommandShell.BaseText
