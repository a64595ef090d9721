import CommandShell.Programs.Bytes

/-!
# Regular expressions over bytes

An expression matches stretches of a line. Matching goes through the line byte by byte with a list
of what is left to match: each byte takes an expression to its continuations behind that byte. Marks
match nothing, at a place that its two neighbours tell. Expressions that refer back to what a group
has matched are matched with the groups in mind, by `Regex.Captures`.
-/
namespace CommandShell

/-- A set of bytes, as bits of four words. -/
structure ByteClass where
  w0 : UInt64
  w1 : UInt64
  w2 : UInt64
  w3 : UInt64
  deriving DecidableEq, Repr

namespace ByteClass

def none : ByteClass := ⟨0, 0, 0, 0⟩

def holds (s : ByteClass) (b : UInt8) : Bool :=
  let n := b.toUInt64
  let w := if n < 64 then s.w0 else if n < 128 then s.w1 else if n < 192 then s.w2 else s.w3
  (w >>> (n % 64)) % 2 == 1

def add (s : ByteClass) (b : UInt8) : ByteClass :=
  let n := b.toUInt64
  let bit : UInt64 := 1 <<< (n % 64)
  if n < 64 then { s with w0 := s.w0 ||| bit }
  else if n < 128 then { s with w1 := s.w1 ||| bit }
  else if n < 192 then { s with w2 := s.w2 ||| bit }
  else { s with w3 := s.w3 ||| bit }

def ofList (bytes : List UInt8) : ByteClass := bytes.foldl add none

def complement (s : ByteClass) : ByteClass := ⟨~~~s.w0, ~~~s.w1, ~~~s.w2, ~~~s.w3⟩

def all : ByteClass := complement none

end ByteClass

/-- A place between two bytes of a line. -/
inductive Mark
  | lineStart
  | lineEnd
  | wordStart
  | wordEnd
  | wordEdge
  | noWordEdge
  deriving DecidableEq, Repr

inductive Regex
  | never
  | empty
  | set (members : ByteClass)
  | mark (m : Mark)
  | both (first second : Regex)
  | either (first second : Regex)
  | many (item : Regex)
  | group (number : Nat) (body : Regex)
  /-- What a group has matched, once more. -/
  | again (number : Nat)
  deriving DecidableEq, Repr

def isWordByte (b : UInt8) : Bool :=
  (48 ≤ b && b ≤ 57) || (65 ≤ b && b ≤ 90) || (97 ≤ b && b ≤ 122) || b == 95

def isWordAt (b : Option UInt8) : Bool := (b.map isWordByte).getD false

/-- Whether a mark is at a place, which the bytes before and behind it tell. -/
def Mark.holds (m : Mark) (before behind : Option UInt8) : Bool :=
  match m with
  | lineStart => before.isNone
  | lineEnd => behind.isNone
  | wordStart => !isWordAt before && isWordAt behind
  | wordEnd => isWordAt before && !isWordAt behind
  | wordEdge => isWordAt before != isWordAt behind
  | noWordEdge => isWordAt before == isWordAt behind

namespace Regex

/-- One expression and then another, without parts that never match or match nothing. -/
def andThen : Regex → Regex → Regex
  | never, _ => never
  | _, never => never
  | empty, q => q
  | p, empty => p
  | p, q => both p q

def orElse : Regex → Regex → Regex
  | never, q => q
  | p, never => p
  | p, q => either p q

def times (p : Regex) : Nat → Regex
  | 0 => empty
  | n + 1 => p.andThen (times p n)

def atMost (p : Regex) : Nat → Regex
  | 0 => empty
  | n + 1 => empty.orElse (p.andThen (atMost p n))

def matchesNothing (before behind : Option UInt8) : Regex → Bool
  | never => false
  | empty => true
  | set _ => false
  | mark m => m.holds before behind
  | both p q => p.matchesNothing before behind && q.matchesNothing before behind
  | either p q => p.matchesNothing before behind || q.matchesNothing before behind
  | many _ => true
  | group _ p => p.matchesNothing before behind
  | again _ => false

/-- Puts an expression among others, once. -/
def insert (p : Regex) (ps : List Regex) : List Regex := if ps.contains p then ps else p :: ps

def union (ps qs : List Regex) : List Regex := ps.foldr insert qs

/-- What is left of an expression behind a byte, in one of several ways. -/
def continuations (before : Option UInt8) (b : UInt8) : Regex → List Regex
  | never => []
  | empty => []
  | set s => if s.holds b then [empty] else []
  | mark _ => []
  | both p q =>
    let first := (p.continuations before b).map (·.andThen q)
    if p.matchesNothing before (some b) then union first (q.continuations before b) else first
  | either p q => union (p.continuations before b) (q.continuations before b)
  | many p => (p.continuations before b).map (·.andThen (many p))
  | group _ p => p.continuations before b
  | again _ => []

def step (before : Option UInt8) (b : UInt8) (ps : List Regex) : List Regex :=
  ps.foldr (fun p found => union (p.continuations before b) found) []

def anyMatchesNothing (before behind : Option UInt8) (ps : List Regex) : Bool :=
  ps.any (·.matchesNothing before behind)

/-- Whether an expression that starts anywhere in a line matches. -/
def search (ps : List Regex) (before : Option UInt8) (left : List Regex) : List UInt8 → Bool
  | [] => anyMatchesNothing before none (union ps left)
  | b :: rest =>
    let left := union ps left
    anyMatchesNothing before (some b) left || search ps (some b) (step before b left) rest

def occursIn (ps : List Regex) (line : List UInt8) : Bool := search ps none [] line

/-- Where matches end that start at the front of the bytes; `at_` counts from there. -/
def endsFrom (left : List Regex) (before : Option UInt8) (at_ : Nat) : List UInt8 → List Nat
  | [] => if anyMatchesNothing before none left then [at_] else []
  | b :: rest =>
    if left = [] then []
    else
      let later := endsFrom (step before b left) (some b) (at_ + 1) rest
      if anyMatchesNothing before (some b) left then at_ :: later else later

def hasGroup : Regex → Bool
  | group .. => true
  | both p q => p.hasGroup || q.hasGroup
  | either p q => p.hasGroup || q.hasGroup
  | many p => p.hasGroup
  | _ => false

def refersBack : Regex → Bool
  | again _ => true
  | both p q => p.refersBack || q.refersBack
  | either p q => p.refersBack || q.refersBack
  | many p => p.refersBack
  | group _ p => p.refersBack
  | _ => false

end Regex
end CommandShell
