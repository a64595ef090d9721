/-!
# Numbers with a fraction

A number is read from decimal or hexadecimal digits as an exact quotient, rounded to the significant
bits that the machine keeps, and written in fixed, scientific, short or hexadecimal form. A half is
rounded to the even neighbour.
-/
namespace CommandShell

/-- A number as a quotient, or what is none. -/
inductive Real
  | finite (negative : Bool) (num den : Nat)
  | infinite (negative : Bool)
  | nan (negative : Bool)
  deriving DecidableEq, Repr

namespace Real

def ofInt (n : Int) : Real := .finite (decide (n < 0)) n.natAbs 1

def isNegative : Real → Bool
  | finite negative _ _ => negative
  | infinite negative => negative
  | nan negative => negative

def negate : Real → Real
  | finite negative num den => finite (!negative) num den
  | infinite negative => infinite (!negative)
  | nan negative => nan (!negative)

/-! ## Rounding -/

/-- The whole number next to a quotient; a half goes to the even one. -/
def roundQuotient (num den : Nat) : Nat :=
  let q := num / den
  let r := num % den
  if 2 * r < den then q else if den < 2 * r then q + 1 else if q % 2 = 0 then q else q + 1

/-- How a machine keeps numbers: how many significant bits, how many of them make the first
hexadecimal digit, the least exponent of the last bit, and the greatest of the first. -/
structure Keeping where
  bits : Nat
  lead : Nat
  least : Int
  greatest : Int

def Keeping.short : Keeping := ⟨53, 1, -1074, 1023⟩

def Keeping.long : Keeping := ⟨64, 4, -16445, 16383⟩

/-- The exponent of the first bit of a quotient that is not zero. -/
def firstBit (num den : Nat) : Int :=
  let guess : Int := (num.log2 : Int) - den.log2
  let atLeast (e : Int) : Bool :=
    if 0 ≤ e then den * Nat.pow 2 e.toNat ≤ num else den ≤ num * Nat.pow 2 (-e).toNat
  if atLeast guess then guess else guess - 1

/-- A quotient with its significant bits alone: a whole number and the power of two it is multiplied
with. -/
def bitsOf (k : Keeping) (num den : Nat) : Nat × Int :=
  if num = 0 then (0, 0)
  else
    let e := max (firstBit num den - (k.bits - 1 : Nat)) k.least
    if 0 ≤ e then (roundQuotient num (den * Nat.pow 2 e.toNat), e)
    else (roundQuotient (num * Nat.pow 2 (-e).toNat) den, e)

def rounded (k : Keeping) : Real → Real
  | finite negative num den =>
    let (m, e) := bitsOf k num den
    if k.greatest < e + m.log2 then infinite negative
    else if 0 ≤ e then finite negative (m * Nat.pow 2 e.toNat) 1
    else finite negative m (Nat.pow 2 (-e).toNat)
  | x => x

/-! ## Arithmetic and order -/

def add : Real → Real → Real
  | finite n a b, finite m c d =>
    let x : Int := (if n then -(a : Int) else a) * d + (if m then -(c : Int) else c) * b
    if x = 0 then finite (n && m) 0 1 else finite (decide (x < 0)) x.natAbs (b * d)
  | infinite n, infinite m => if n = m then infinite n else nan true
  | nan n, _ => nan n
  | _, nan m => nan m
  | infinite n, _ => infinite n
  | _, infinite m => infinite m

def times (n : Nat) : Real → Real
  | finite negative num den => finite negative (n * num) den
  | infinite negative => if n = 0 then nan true else infinite negative
  | nan negative => nan negative

/-- The order of numbers; there is none with what is no number. -/
def order? : Real → Real → Option Ordering
  | nan _, _ => none
  | _, nan _ => none
  | infinite n, infinite m => some (compare m n)
  | infinite n, _ => some (if n then .lt else .gt)
  | _, infinite m => some (if m then .gt else .lt)
  | finite n a b, finite m c d =>
    some (compare ((if n then -(a : Int) else a) * d) ((if m then -(c : Int) else c) * b))

def less (x y : Real) : Bool := order? x y == some .lt

def same (x y : Real) : Bool := order? x y == some .eq

/-! ## Reading -/

def digitValue (c : Char) : Nat :=
  if c.isDigit then c.toNat - 48
  else if 'a' ≤ c ∧ c ≤ 'f' then c.toNat - 87
  else if 'A' ≤ c ∧ c ≤ 'F' then c.toNat - 55
  else 0

def isHexDigit (c : Char) : Bool :=
  c.isDigit || ('a' ≤ c && c ≤ 'f') || ('A' ≤ c && c ≤ 'F')

def ofDigits (base : Nat) (digits : List Char) : Nat :=
  digits.foldl (fun n c => base * n + digitValue c) 0

/-- An exponent behind its letter, and the rest; none if no digits follow. -/
def readExponent (letters : List Char) (cs : List Char) : Int × List Char :=
  match cs with
  | [] => (0, [])
  | c :: rest =>
    if c ∉ letters then (0, cs)
    else
      let (negative, digits) := match rest with
        | '-' :: ds => (true, ds)
        | '+' :: ds => (false, ds)
        | ds => (false, ds)
      let run := digits.takeWhile Char.isDigit
      if run = [] then (0, cs)
      else
        let n : Int := ofDigits 10 run
        (if negative then -n else n, digits.drop run.length)

def mostExponent : Int := 20000

/-- A quotient of digits, with so many of them behind the point, times a power of a base. -/
def scaled (negative : Bool) (digits : Nat) (radix places : Nat) (base : Nat) (exponent : Int) :
    Real :=
  if digits = 0 then finite negative 0 1
  else if mostExponent < exponent then infinite negative
  else if exponent < -mostExponent then finite negative 0 1
  else if 0 ≤ exponent then
    finite negative (digits * Nat.pow base exponent.toNat) (Nat.pow radix places)
  else finite negative digits (Nat.pow radix places * Nat.pow base (-exponent).toNat)

/-- Digits, a point and digits, and the rest; none without any digit. -/
def readPlaces (isDigit : Char → Bool) (cs : List Char) :
    Option (List Char × List Char × List Char) :=
  let whole := cs.takeWhile isDigit
  let rest := cs.drop whole.length
  let (fraction, rest) := match rest with
    | '.' :: ds =>
      let run := ds.takeWhile isDigit
      (run, ds.drop run.length)
    | ds => ([], ds)
  if whole = [] ∧ fraction = [] then none else some (whole, fraction, rest)

/-- Whether a text starts with a word in small or capital letters. -/
def startsWithWord (word : String) (cs : List Char) : Bool :=
  word.toList.isPrefixOf (cs.map Char.toLower)

def readMagnitude (negative : Bool) (cs : List Char) : Option (Real × List Char) :=
  if startsWithWord "infinity" cs then some (infinite negative, cs.drop 8)
  else if startsWithWord "inf" cs then some (infinite negative, cs.drop 3)
  else if startsWithWord "nan" cs then some (nan negative, cs.drop 3)
  else
    let decimal : Option (Real × List Char) :=
      (readPlaces Char.isDigit cs).map fun (whole, fraction, rest) =>
        let (e, rest) := readExponent ['e', 'E'] rest
        (scaled negative (ofDigits 10 (whole ++ fraction)) 10 fraction.length 10 e, rest)
    match cs with
    | '0' :: x :: rest =>
      if x = 'x' ∨ x = 'X' then
        match readPlaces isHexDigit rest with
        | none => decimal
        | some (whole, fraction, rest) =>
          let (e, rest) := readExponent ['p', 'P'] rest
          some (scaled negative (ofDigits 16 (whole ++ fraction)) 16 fraction.length 2 e, rest)
      else decimal
    | _ => decimal

def isSpace (c : Char) : Bool := c == ' ' || ('\t' ≤ c && c ≤ '\r')

/-- The number at the front of a text, blanks before it aside, and the rest; none if there is no
number. -/
def read? (cs : List Char) : Option (Real × List Char) :=
  match cs.dropWhile isSpace with
  | '-' :: rest => readMagnitude true rest
  | '+' :: rest => readMagnitude false rest
  | rest => readMagnitude false rest

/-! ## Writing -/

/-- The digits of a whole number, with zeros in front up to a width. -/
def padded (width n : Nat) : List Char :=
  let digits := Nat.toDigits 10 n
  List.replicate (width - digits.length) '0' ++ digits

/-- A point and digits; without digits the point stands only where it is asked for. -/
def withPoint (point : Bool) (fraction : List Char) : List Char :=
  if fraction = [] then (if point then ['.'] else []) else '.' :: fraction

def fixed (point : Bool) (places num den : Nat) : List Char :=
  let digits := padded (places + 1) (roundQuotient (num * Nat.pow 10 places) den)
  digits.take (digits.length - places) ++ withPoint point (digits.drop (digits.length - places))

/-- The decimal exponent of a quotient that is not zero. -/
def decimalExponent (num den : Nat) : Int :=
  let guess : Int := ((Nat.toDigits 10 num).length : Int) - (Nat.toDigits 10 den).length
  let atLeast (e : Int) : Bool :=
    if 0 ≤ e then den * Nat.pow 10 e.toNat ≤ num else den ≤ num * Nat.pow 10 (-e).toNat
  if atLeast guess then guess else guess - 1

/-- The digits of a quotient, one and so many more, and its decimal exponent after rounding. -/
def significant (more num den : Nat) : List Char × Int :=
  if num = 0 then (List.replicate (more + 1) '0', 0)
  else
    let e := decimalExponent num den
    let shift := (more : Int) - e
    let n := if 0 ≤ shift then roundQuotient (num * Nat.pow 10 shift.toNat) den
      else roundQuotient num (den * Nat.pow 10 (-shift).toNat)
    if Nat.pow 10 (more + 1) ≤ n then (padded (more + 1) (n / 10), e + 1)
    else (padded (more + 1) n, e)

def exponentText (letter : Char) (least : Nat) (e : Int) : List Char :=
  letter :: (if e < 0 then '-' else '+') :: padded least e.natAbs

def scientific (point : Bool) (places num den : Nat) : List Char :=
  let (digits, e) := significant places num den
  digits.take 1 ++ withPoint point (digits.drop 1) ++ exponentText 'e' 2 e

def dropZeros (digits : List Char) : List Char := (digits.reverse.dropWhile (· == '0')).reverse

/-- The shorter of both forms with so many significant digits; zeros at the end are left out unless
the point is asked for. -/
def general (point : Bool) (digits num den : Nat) : List Char :=
  let most := max digits 1
  let (ds, e) := significant (most - 1) num den
  let trim (cs : List Char) : List Char := if point then cs else dropZeros cs
  if e < -4 ∨ (most : Int) ≤ e then
    ds.take 1 ++ withPoint point (trim (ds.drop 1)) ++ exponentText 'e' 2 e
  else if 0 ≤ e then
    let whole := e.toNat + 1
    ds.take whole ++ withPoint point (trim (ds.drop whole))
  else '0' :: withPoint point (trim (List.replicate ((-e).toNat - 1) '0' ++ ds))

/-- Hexadecimal form of a number as the machine keeps it: one digit of the first bits, and the
others behind the point. -/
def hexadecimal (k : Keeping) (point : Bool) (places : Option Nat) (num den : Nat) : List Char :=
  let (m, e) := bitsOf k num den
  let (m, e) := if m = 0 then (0, 0)
    else
      let up := k.bits - 1 - m.log2
      (m * Nat.pow 2 up, e - up)
  let body (digits : List Char) (e : Int) : List Char :=
    ['0', 'x'] ++ digits.take 1 ++ withPoint point (digits.drop 1) ++
      'p' :: (if e < 0 then '-' else '+') :: Nat.toDigits 10 e.natAbs
  let hex (n width : Nat) : List Char :=
    let ds := Nat.toDigits 16 n
    List.replicate (width - ds.length) '0' ++ ds
  let most := (k.bits - k.lead) / 4
  let top := if m = 0 then 0 else e + (k.bits - k.lead : Nat)
  match places with
  | none =>
    let ds := hex m (most + 1)
    body (ds.take 1 ++ dropZeros (ds.drop 1)) top
  | some places =>
    if most ≤ places then body (hex m (most + 1) ++ List.replicate (places - most) '0') top
    else
      let n := roundQuotient m (Nat.pow 16 (most - places))
      if Nat.pow 16 (places + 1) ≤ n then body (hex (n / 16) (places + 1)) (top + 4)
      else body (hex n (places + 1)) top

end Real
end CommandShell
