import CommandShell.Programs.Sources
import CommandShell.Programs.Amount

/-!
# Factors

The prime factors of whole numbers, the smallest first. Small divisors are tried one after the
other; what is left is taken apart by a search for a divisor in a sequence that repeats itself
earlier modulo the divisor than modulo the number. The factors of a number multiply to it.
-/
namespace CommandShell.Factors

/-! ## Small divisors -/

/-- The divisors of a number from `d` on, and what is left of it; `fuel` bounds how many
are tried. -/
def tried : Nat → Nat → Nat → List Nat × Nat
  | 0, _, n => ([], n)
  | fuel + 1, d, n =>
    if n < d * d then ([], n)
    else if n % d = 0 then
      let found := tried fuel d (n / d)
      (d :: found.1, found.2)
    else tried fuel (if d = 2 then 3 else d + 2) n

/-! ## Primes -/

def power (m : Nat) : Nat → Nat → Nat → Nat
  | 0, _, _ => 1 % m
  | fuel + 1, b, e =>
    if e = 0 then 1 % m
    else
      let half := power m fuel (b * b % m) (e / 2)
      if e % 2 = 1 then b * half % m else half

/-- The number without its factors of two, and how many of them there are. -/
def oddPart : Nat → Nat → Nat × Nat
  | 0, n => (n, 0)
  | fuel + 1, n =>
    if n % 2 = 0 ∧ n ≠ 0 then
      let found := oddPart fuel (n / 2)
      (found.1, found.2 + 1)
    else (n, 0)

def reachesLast (n : Nat) : Nat → Nat → Bool
  | 0, _ => false
  | k + 1, x => x + 1 == n || reachesLast n k (x * x % n)

/-- Whether a base does not show that an odd number has factors. -/
def passes (n base : Nat) : Bool :=
  let (odd, twos) := oddPart (n.log2 + 1) (n - 1)
  let x := power n (n.log2 + 1) (base % n) odd
  base % n = 0 || x = 1 || reachesLast n twos x

/-- Bases that together show of every number below 3 · 10 ^ 24 whether it has factors. -/
def bases : List Nat := [2, 3, 5, 7, 11, 13, 17, 19, 23, 29, 31, 37, 41]

def isPrime (n : Nat) : Bool := bases.all (passes n)

/-! ## Large divisors -/

/-- Looks for a divisor by two walks through one sequence, one twice as fast as the other. -/
def walk (n step : Nat) : Nat → Nat → Nat → Option Nat
  | 0, _, _ => none
  | fuel + 1, x, y =>
    let next (z : Nat) : Nat := (z * z + step) % n
    let x := next x
    let y := next (next y)
    let d := Nat.gcd (if x < y then y - x else x - y) n
    if d = 1 then walk n step fuel x y else if d < n then some d else none

def longest : Nat := Nat.pow 2 22

def divisor? (n : Nat) : Option Nat :=
  ((List.range 24).findSome? fun step => walk n (step + 1) longest 2 2).filter fun d => n % d == 0

/-- The factors of a number without small ones; `fuel` bounds how often it is taken apart. -/
def taken : Nat → Nat → List Nat
  | 0, n => [n]
  | fuel + 1, n =>
    if n < 2 then (if n = 1 then [] else [n])
    else if isPrime n then [n]
    else
      match divisor? n with
      | some d => taken fuel d ++ taken fuel (n / d)
      | none => [n]

def tries : Nat := 2048

def factors (n : Nat) : List Nat :=
  let (small, rest) := tried tries 2 n
  small ++ (if rest < tries * tries then (if rest = 1 then [] else [rest])
    else taken (rest.log2 + 1) rest).mergeSort (· ≤ ·)

/-! ## The tool -/

def number? (text : String) : Option Nat :=
  let cs := text.toList.dropWhile fun c => c == ' ' || c == '+'
  if Amount.isDigits cs then some (readDigits cs) else none

/-- One line for each number; zero has no factors. -/
def answer (tool : String) (texts : List String) : Answer :=
  let found := texts.map fun text => (text, number? text)
  let line (n : Nat) : String :=
    s!"{n}:" ++ String.join ((if n = 0 then [] else factors n).map fun f => s!" {f}") ++ "\n"
  let reports := found.filterMap fun e =>
    if e.2.isSome then none
    else some s!"{tool}: {Naming.literal e.1} is not a valid positive integer"
  ⟨reports, Bytes.ofText (String.join (found.filterMap fun e => e.2.map line)),
    if reports = [] then 0 else 1⟩

def wordsOf (bytes : ByteArray) : List String :=
  let cs := bytes.toList.map fun b => Char.ofNat b.toNat
  ((Text.cut Amount.isSpace cs).filter (· ≠ [])).map String.ofList

def factor : Tool := .withOptions (.of "" []) 1 fun o job w =>
  let (texts, unread) :=
    if o.operands = [] then (wordsOf job.input.bytes, .empty) else (o.operands, job.input.bytes)
  let a := answer job.name texts
  (.of a.reports a.output a.status unread, w)

end CommandShell.Factors
