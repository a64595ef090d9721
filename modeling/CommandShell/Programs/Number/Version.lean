import CommandShell.Programs.Bytes

/-!
# The order of versions

Names with numbers in them: stretches of digits are compared as numbers, and what stands between
them byte by byte, a tilde before everything and letters before other bytes. Endings that start with
a dot and a letter are looked at only where the rest is the same.
-/
namespace CommandShell.Version

def isDigit (b : UInt8) : Bool := 48 ≤ b && b ≤ 57

def isAlpha (b : UInt8) : Bool := (65 ≤ b && b ≤ 90) || (97 ≤ b && b ≤ 122)

/-- The rank of a byte outside of numbers; the end of a name comes before all but a tilde. -/
def rank : List UInt8 → Int
  | [] => -1
  | b :: _ =>
    if isDigit b then 0
    else if isAlpha b then b.toNat
    else if b = 126 then -2
    else b.toNat + 256

def startsWithText (x : List UInt8) : Bool :=
  match x with
  | [] => false
  | b :: _ => !isDigit b

def dropZeros (x : List UInt8) : List UInt8 := x.dropWhile (· == 48)

/-- The order of two runs of digits without zeros in front. -/
def orderDigits (x y : List UInt8) : Ordering :=
  (compare x.length y.length).then (compare (x.map UInt8.toNat) (y.map UInt8.toNat))

/-- Text and digits in turn; `fuel` bounds the steps. -/
def orderWithin : Nat → List UInt8 → List UInt8 → Ordering
  | 0, _, _ => .eq
  | fuel + 1, x, y =>
    if startsWithText x || startsWithText y then
      match compare (rank x) (rank y) with
      | .eq => orderWithin fuel (x.drop 1) (y.drop 1)
      | found => found
    else
      match x, y with
      | [], [] => .eq
      | x, y =>
        let x := dropZeros x
        let y := dropZeros y
        let a := x.takeWhile isDigit
        let b := y.takeWhile isDigit
        match orderDigits a b with
        | .eq => orderWithin fuel (x.drop a.length) (y.drop b.length)
        | found => found

def orderText (x y : List UInt8) : Ordering := orderWithin (x.length + y.length + 1) x y

def isEndingByte (b : UInt8) : Bool := isDigit b || isAlpha b || b = 126

def isEndings : Nat → List UInt8 → Bool
  | 0, _ => false
  | _, [] => true
  | fuel + 1, 46 :: b :: rest =>
    (isAlpha b || b = 126) && isEndings fuel (rest.dropWhile isEndingByte)
  | _, _ => false

/-- A name without its endings; the first byte is never part of one. -/
def stem (x : List UInt8) : List UInt8 :=
  match x with
  | [] => []
  | b :: rest =>
    let cut := (List.range (rest.length + 1)).find? fun n =>
      isEndings (rest.length + 1) (rest.drop n)
    b :: rest.take (cut.getD rest.length)

/-- The rank of names that start with a dot: the folder itself, the one above, other such names, and
then all the others. -/
def dotRank (x : List UInt8) : Nat :=
  match x with
  | [46] => 0
  | [46, 46] => 1
  | 46 :: _ => 2
  | _ => 3

def order (x y : List UInt8) : Ordering :=
  match x, y with
  | [], [] => .eq
  | [], _ => .lt
  | _, [] => .gt
  | x, y =>
    (compare (dotRank x) (dotRank y)).then
      ((orderText (stem x) (stem y)).then (orderText x y))

end CommandShell.Version
