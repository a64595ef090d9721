import CommandShell.Programs.Amount
import CommandShell.Programs.Number.Real

/-!
# Slots of a format

A slot of a format is filled with a text or a number, written as its letter says and brought to a
width. Texts are rows of bytes here, each of them a character.
-/
namespace CommandShell

structure Slot where
  left : Bool
  zeros : Bool
  signed : Bool
  spaced : Bool
  alternate : Bool
  width : Nat
  precision : Option Nat
  letter : Char
  deriving Repr

namespace Slot

def plain (letter : Char) : Slot := ⟨false, false, false, false, false, 0, none, letter⟩

/-- Brings a sign and a body to the width of the slot. -/
def fill (s : Slot) (zeros : Bool) (sign body : List Char) : List Char :=
  let missing := s.width - (sign.length + body.length)
  if s.left then sign ++ body ++ List.replicate missing ' '
  else if zeros then sign ++ List.replicate missing '0' ++ body
  else List.replicate missing ' ' ++ sign ++ body

/-- The first characters of a text, as many as the slot takes. -/
def text (s : Slot) (cs : List Char) : List Char :=
  s.fill false [] (cs.take (s.precision.getD cs.length))

/-- One character; every text has at least the null character behind it. -/
def character (s : Slot) (cs : List Char) : List Char := s.fill false [] [cs.headD '\x00']

def signOf (s : Slot) (negative : Bool) : List Char :=
  if negative then ['-'] else if s.signed then ['+'] else if s.spaced then [' '] else []

/-- Digits with as many zeros in front as the precision asks for; zero has none at
precision zero. -/
def digits (s : Slot) (base n : Nat) : List Char :=
  let plain := if n = 0 ∧ s.precision = some 0 then [] else Nat.toDigits base n
  List.replicate (s.precision.getD 0 - plain.length) '0' ++ plain

def signedNumber (s : Slot) (n : Int) : List Char :=
  s.fill (s.zeros && s.precision.isNone) (s.signOf (n < 0)) (s.digits 10 n.natAbs)

def unsignedNumber (s : Slot) (n : Nat) : List Char :=
  let zeros := s.zeros && s.precision.isNone
  match s.letter with
  | 'o' =>
    let ds := s.digits 8 n
    s.fill zeros [] (if s.alternate ∧ ds.head? ≠ some '0' then '0' :: ds else ds)
  | 'x' => s.fill zeros (if s.alternate ∧ n ≠ 0 then ['0', 'x'] else []) (s.digits 16 n)
  | 'X' =>
    s.fill zeros (if s.alternate ∧ n ≠ 0 then ['0', 'X'] else [])
      ((s.digits 16 n).map Char.toUpper)
  | _ => s.fill zeros [] (s.digits 10 n)

/-- A number with a fraction, as a machine keeps it. -/
def real (s : Slot) (k : Real.Keeping) (x : Real) : List Char :=
  let small := s.letter.toLower
  let places := s.precision.getD 6
  let cased (cs : List Char) : List Char := if s.letter.isUpper then cs.map Char.toUpper else cs
  let word (negative : Bool) (w : String) : List Char :=
    s.fill false (s.signOf negative) (cased w.toList)
  match x.rounded k with
  | .infinite negative => word negative "inf"
  | .nan negative => word negative "nan"
  | .finite negative num den =>
    let body :=
      if small = 'f' then Real.fixed s.alternate places num den
      else if small = 'e' then Real.scientific s.alternate places num den
      else if small = 'g' then Real.general s.alternate places num den
      else Real.hexadecimal k s.alternate s.precision num den
    let opening := if small = 'a' then 2 else 0
    s.fill s.zeros (s.signOf negative ++ cased (body.take opening)) (cased (body.drop opening))

/-- The flags at the front of a slot, and the rest. -/
def readFlags (cs : List Char) : Slot × List Char :=
  let flags := cs.takeWhile fun c => "-+ 0#'".contains c
  ({ left := flags.contains '-'
     zeros := flags.contains '0'
     signed := flags.contains '+'
     spaced := flags.contains ' '
     alternate := flags.contains '#'
     width := 0
     precision := none
     letter := ' ' }, cs.drop flags.length)

end Slot

/-! ## Numbers as arguments -/

/-- How reading a number from a text went. -/
inductive NumberFault
  | missing
  | partial_
  | outOfRange
  /-- Characters behind the one whose number is asked for. -/
  | trailing (ignored : List Char)
  deriving DecidableEq, Repr

/-- A number and what was wrong with its text. -/
structure NumberRead (α : Type) where
  value : α
  fault : Option NumberFault

namespace NumberRead

/-- Digits at the front of a text with the base that they say, and the rest. -/
def magnitude (cs : List Char) : Option (Nat × List Char) :=
  let take (base : Nat) (isDigit : Char → Bool) (cs : List Char) : Nat × List Char :=
    let digits := cs.takeWhile isDigit
    (Real.ofDigits base digits, cs.drop digits.length)
  let isOctal (c : Char) : Bool := '0' ≤ c && c ≤ '7'
  match cs with
  | '0' :: x :: d :: rest =>
    if (x = 'x' ∨ x = 'X') ∧ Real.isHexDigit d then some (take 16 Real.isHexDigit (d :: rest))
    else some (take 8 isOctal cs)
  | '0' :: _ => some (take 8 isOctal cs)
  | c :: _ => if c.isDigit then some (take 10 Char.isDigit cs) else none
  | [] => none

/-- A whole number at the front of a text, and the rest. -/
def whole (cs : List Char) : Option (Bool × Nat × List Char) :=
  match cs.dropWhile Amount.isSpace with
  | '-' :: rest => (magnitude rest).map fun e => (true, e.1, e.2)
  | '+' :: rest => (magnitude rest).map fun e => (false, e.1, e.2)
  | rest => (magnitude rest).map fun e => (false, e.1, e.2)

/-- What is wrong with a text of which a rest was not read. -/
def faultOf (cs rest : List Char) (outOfRange : Bool) : Option NumberFault :=
  if outOfRange then some .outOfRange
  else if rest = [] then none
  else if rest.length = cs.length then some .missing
  else some .partial_

/-- The least and the greatest number of eight bytes with a sign, and how many such numbers there
are. -/
def leastSigned : Int := -9223372036854775808
def greatestSigned : Int := 9223372036854775807
def allNumbers : Nat := 18446744073709551616

def character? (cs : List Char) : Option (NumberRead Nat) :=
  match cs with
  | q :: c :: rest =>
    if q = '"' ∨ q = '\'' then
      some ⟨c.toNat, if rest = [] then none else some (.trailing rest)⟩
    else none
  | _ => none

def signed (cs : List Char) : NumberRead Int :=
  match whole cs with
  | none => ⟨0, faultOf cs cs false⟩
  | some (negative, n, rest) =>
    let value : Int := if negative then -(n : Int) else n
    if value < leastSigned then ⟨leastSigned, faultOf cs rest true⟩
    else if greatestSigned < value then ⟨greatestSigned, faultOf cs rest true⟩
    else ⟨value, faultOf cs rest false⟩

/-- A number without a sign; a negative one stands for what it leaves of all numbers. -/
def unsigned (cs : List Char) : NumberRead Nat :=
  match whole cs with
  | none => ⟨0, faultOf cs cs false⟩
  | some (negative, n, rest) =>
    if allNumbers ≤ n then ⟨allNumbers - 1, faultOf cs rest true⟩
    else if negative ∧ n ≠ 0 then ⟨allNumbers - n, faultOf cs rest false⟩
    else ⟨n, faultOf cs rest false⟩

def real (k : Real.Keeping) (cs : List Char) : NumberRead Real :=
  match Real.read? (cs.dropWhile Amount.isSpace) with
  | none => ⟨.finite false 0 1, faultOf cs cs false⟩
  | some (x, rest) =>
    let tooLarge := match x, x.rounded k with
      | .finite .., .infinite _ => true
      | _, _ => false
    ⟨x, faultOf cs rest tooLarge⟩

end NumberRead
end CommandShell
