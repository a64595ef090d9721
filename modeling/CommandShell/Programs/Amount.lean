import CommandShell.Programs.Naming
import CommandShell.Programs.Toolbox

/-!
# Amounts

Numbers as the words of a tool give them: decimal digits, and a suffix that multiplies them where
the tool allows it.
-/
namespace CommandShell

namespace Amount

def isSpace (c : Char) : Bool := c == ' ' || ('\t' ≤ c && c ≤ '\r')

/-- The power of the base that a suffix stands for. -/
def power? (c : Char) : Option Nat :=
  match c with
  | 'k' => some 1
  | 'K' => some 1
  | 'M' => some 2
  | 'm' => some 2
  | 'G' => some 3
  | 'g' => some 3
  | 'T' => some 4
  | 't' => some 4
  | 'P' => some 5
  | 'E' => some 6
  | 'Z' => some 7
  | 'Y' => some 8
  | _ => none

/-- The factor of a suffix. Where `bases` holds, a letter can be followed by one more that tells
thousands from powers of two. -/
def factor? (allowed : String) (suffix : List Char) : Option Nat :=
  match suffix with
  | [] => some 1
  | c :: rest =>
    if !allowed.toList.contains c then none
    else
      match c, power? c, rest with
      | 'b', _, [] => some 512
      | 'c', _, [] => some 1
      | 'w', _, [] => some 2
      | 'B', _, [] => some 1024
      | _, some n, [] => some (Nat.pow 1024 n)
      | _, some n, ['B'] => if allowed.toList.contains '0' then some (Nat.pow 1000 n) else none
      | _, some n, ['D'] => if allowed.toList.contains '0' then some (Nat.pow 1000 n) else none
      | _, some n, ['i', 'B'] => if allowed.toList.contains '0' then some (Nat.pow 1024 n) else none
      | _, _, _ => none

/-- An amount without a sign; a suffix alone stands for one of its kind. -/
def read? (allowed : String) (s : String) : Option Nat :=
  let cs := s.toList.dropWhile isSpace
  let cs := if cs.head? = some '+' then cs.drop 1 else cs
  let digits := cs.takeWhile Char.isDigit
  let suffix := cs.drop digits.length
  if digits = [] then (if s.toList = [] then none else factor? allowed s.toList)
  else (factor? allowed suffix).map (readDigits digits * ·)

def largest : Nat := 18446744073709551615

/-- The largest number of a machine word with a sign. -/
def largestSigned : Nat := 9223372036854775807

/-- Why a text is no amount that a tool takes. -/
inductive Fault
  | malformed
  | tooLarge
  | outOfRange
  deriving DecidableEq, Repr

def within (least most : Nat) (allowed text : String) : Except Fault Nat :=
  match read? allowed text with
  | none => .error .malformed
  | some n =>
    if n < least then .error .outOfRange
    else if n ≤ most then .ok n
    else if n < Nat.pow 2 30 then .error .outOfRange
    else .error .tooLarge

def refusal (what text : String) (fault : Fault) : String :=
  s!"invalid {what}: {Naming.literal text}" ++ match fault with
    | .malformed => ""
    | .tooLarge => ": Value too large for defined data type"
    | .outOfRange => ": Numerical result out of range"

/-- A whole number with a sign, and nothing behind it. -/
def whole? (s : String) : Option Int :=
  let cs := s.toList.dropWhile isSpace
  let (negative, cs) := match cs with
    | '-' :: rest => (true, rest)
    | '+' :: rest => (false, rest)
    | rest => (false, rest)
  if cs = [] ∨ ¬ cs.all Char.isDigit then none
  else if negative then some (-(readDigits cs : Int)) else some (readDigits cs)

def isDigits (cs : List Char) : Bool := !cs.isEmpty && cs.all Char.isDigit

end Amount
end CommandShell
