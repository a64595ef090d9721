import CommandShell.Programs.Glob
import CommandShell.Programs.Number.Real

/-!
# Escapes

What a backslash and the characters behind it stand for. The formats of the tools, their arguments
and scripts know different escapes; what none of them knows stands for itself, backslash and all.
-/
namespace CommandShell

/-- Who reads escapes. -/
inductive EscapeForm
  /-- The `echo` of the toolbox. -/
  | spoken
  /-- The format of the `printf` of the toolbox. -/
  | format
  /-- An argument of that `printf`. -/
  | argument
  /-- The format of the `printf` of scripts. -/
  | scriptFormat
  /-- The words of scripts. -/
  | scriptWord
  deriving DecidableEq

/-- What an escape stands for. -/
inductive Escaped
  | text (cs : List Char)
  /-- Nothing more is written. -/
  | stop
  | broken (message : String)

namespace Escaped

def isOctal (c : Char) : Bool := '0' ≤ c && c ≤ '7'

def octal (digits : List Char) : Nat := Real.ofDigits 8 digits

def byte (n : Nat) : Escaped := .text [Char.ofNat (n % 256)]

def control? (c : Char) : Option Nat :=
  match c with
  | 'a' => some 7
  | 'b' => some 8
  | 't' => some 9
  | 'n' => some 10
  | 'v' => some 11
  | 'f' => some 12
  | 'r' => some 13
  | '\\' => some 92
  | _ => none

namespace EscapeForm

/-- Whether a zero behind the backslash stands in front of three octal digits. -/
def zeroFirst : EscapeForm → Bool
  | .format => false
  | .scriptFormat => false
  | _ => true

def isScript : EscapeForm → Bool
  | .scriptFormat => true
  | .scriptWord => true
  | _ => false

end EscapeForm

/-- A number as so many hexadecimal digits in capital letters. -/
def hexDigits (width n : Nat) : List Char :=
  let ds := (Nat.toDigits 16 n).map Char.toUpper
  List.replicate (width - ds.length) '0' ++ ds

/-- A character by its number, where only the first 128 can be written. -/
def character (letter : Char) (n : Nat) : Escaped :=
  let isNamed : Bool := n = 0x24 ∨ n = 0x40 ∨ n = 0x60
  let width := if letter = 'u' then 4 else 8
  if (n ≤ 0x9f ∧ ¬ isNamed) ∨ (0xd800 ≤ n ∧ n ≤ 0xdfff) then
    .broken ("invalid universal character name \\" ++
      String.ofList (letter :: (hexDigits width n).map Char.toLower))
  else if n < 0x80 then .text [Char.ofNat n]
  else if n < 0x10000 then .text (['\\', 'u'] ++ hexDigits 4 n)
  else .text (['\\', 'U'] ++ hexDigits 8 n)

def digitsMissing : Escaped := .broken "missing hexadecimal number in escape"

/-- What stands behind a backslash, and the rest. -/
def read (form : EscapeForm) (cs : List Char) : Escaped × List Char :=
  let isFormat : Bool := form = .format ∨ form = .argument
  match cs with
  | [] => (.text ['\\'], [])
  | c :: rest =>
    if isOctal c then
      let cs := if c = '0' ∧ EscapeForm.zeroFirst form then rest else c :: rest
      let digits := (cs.take 3).takeWhile isOctal
      (byte (octal digits), cs.drop digits.length)
    else if c = 'c' then
      if form = .scriptFormat then (.text ['\\', 'c'], rest) else (.stop, rest)
    else if c = 'e' then (byte 27, rest)
    else if EscapeForm.isScript form then
      match control? c with
      | some n => (byte n, rest)
      | none => (.text ['\\'], c :: rest)
    else if c = '"' ∧ isFormat then (.text ['"'], rest)
    else if c = 'x' then
      let digits := (rest.take 2).takeWhile Real.isHexDigit
      if digits ≠ [] then (byte (Real.ofDigits 16 digits), rest.drop digits.length)
      else if isFormat then (digitsMissing, rest)
      else (.text ['\\', 'x'], rest)
    else if (c = 'u' ∨ c = 'U') ∧ isFormat then
      let width := if c = 'u' then 4 else 8
      let digits := (rest.take width).takeWhile Real.isHexDigit
      if digits.length < width then (digitsMissing, rest)
      else (character c (Real.ofDigits 16 digits), rest.drop width)
    else
      match control? c with
      | some n => (byte n, rest)
      | none => (.text ['\\', c], rest)

/-- How a text with escapes comes to its end. -/
inductive ExpansionEnd
  | done
  | stopped
  | broke (message : String)
  deriving DecidableEq

/-- The characters of a text with escapes; `fuel` bounds the steps. -/
def expandWithin (form : EscapeForm) : Nat → List Char → List Char × ExpansionEnd
  | 0, _ => ([], .done)
  | _, [] => ([], .done)
  | fuel + 1, '\\' :: rest =>
    match read form rest with
    | (.stop, _) => ([], .stopped)
    | (.broken message, _) => ([], .broke message)
    | (.text cs, rest) =>
      let tail := expandWithin form fuel rest
      (cs ++ tail.1, tail.2)
  | fuel + 1, c :: rest =>
    let tail := expandWithin form fuel rest
    (c :: tail.1, tail.2)

def expand (form : EscapeForm) (cs : List Char) : List Char × ExpansionEnd :=
  expandWithin form (cs.length + 1) cs

end Escaped

/-- The bytes of a row of characters, each of which is one. -/
def charBytes (cs : List Char) : ByteArray :=
  cs.foldl (fun bytes c => bytes.push (UInt8.ofNat c.toNat)) .empty

end CommandShell
