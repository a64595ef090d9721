import CommandShell.Programs.Regex.Basic

/-!
# Groups

Matching with the groups of an expression in mind: each way to match is an end together with what
the groups have matched. Ways are listed with the longest repetitions first.
-/
namespace CommandShell.Regex

/-- What groups have matched: the bytes by the number of the group. -/
abbrev Captured := List (Nat × List UInt8)

/-- A way to match: the byte before what is left, what is left, and the groups. -/
structure Way where
  before : Option UInt8
  rest : List UInt8
  groups : Captured
  deriving DecidableEq

def stretch (start end_ : List UInt8) : List UInt8 := start.take (start.length - end_.length)

def Way.take? (fold : UInt8 → UInt8) (w : Way) : List UInt8 → Option Way
  | [] => some w
  | b :: bytes =>
    match w.rest with
    | [] => none
    | c :: rest =>
      if fold b = fold c then
        Way.take? fold { w with before := some c, rest } bytes
      else none

def distinct (ways : List Way) : List Way :=
  ways.foldl (fun found w => if found.contains w then found else found ++ [w]) []

/-- All ways in which an expression matches at the front of what is left; `fuel` bounds the
repetitions. -/
def ways (fold : UInt8 → UInt8) : Nat → Regex → Way → List Way
  | 0, _, _ => []
  | fuel + 1, p, w =>
    match p with
    | never => []
    | empty => [w]
    | set s =>
      match w.rest with
      | b :: rest => if s.holds b then [{ w with before := some b, rest }] else []
      | [] => []
    | mark m => if m.holds w.before w.rest.head? then [w] else []
    | both p q => distinct ((ways fold fuel p w).flatMap (ways fold fuel q))
    | either p q => distinct (ways fold fuel p w ++ ways fold fuel q w)
    | many p =>
      let once := (ways fold fuel p w).filter fun v => v.rest.length < w.rest.length
      distinct (once.flatMap (ways fold fuel (many p)) ++ [w])
    | group n p =>
      (ways fold fuel p w).map fun v =>
        { v with groups := (n, stretch w.rest v.rest) :: v.groups.filter (·.1 ≠ n) }
    | again n =>
      match w.groups.lookup n with
      | some bytes => (w.take? fold bytes).toList
      | none => []

def depth : Regex → Nat
  | both p q => max p.depth q.depth + 1
  | either p q => max p.depth q.depth + 1
  | many p => p.depth + 1
  | group _ p => p.depth + 1
  | _ => 1

/-- All ways to match at the front of a line. -/
def waysFrom (fold : UInt8 → UInt8) (p : Regex) (before : Option UInt8) (line : List UInt8) :
    List Way :=
  ways fold (p.depth + line.length + 2) p ⟨before, line, []⟩

/-- The longest way to match; of several, the first that is listed. -/
def longestWay? (fold : UInt8 → UInt8) (p : Regex) (before : Option UInt8) (line : List UInt8) :
    Option Way :=
  (waysFrom fold p before line).foldl (fun best w =>
    match best with
    | none => some w
    | some b => if w.rest.length < b.rest.length then some w else some b) none

/-- Where matches end that start at the front of a line. -/
def endsWithGroups (fold : UInt8 → UInt8) (p : Regex) (before : Option UInt8)
    (line : List UInt8) : List Nat :=
  (waysFrom fold p before line).map fun w => line.length - w.rest.length

/-- The first way to match in a line, and how many bytes stand before it; of those that start at one
place the longest counts. -/
def firstWay? (fold : UInt8 → UInt8) (p : Regex) (at_ : Nat) (before : Option UInt8) :
    List UInt8 → Option (Nat × Way)
  | [] => (longestWay? fold p before []).map fun w => (at_, w)
  | b :: rest =>
    match longestWay? fold p before (b :: rest) with
    | some w => some (at_, w)
    | none => firstWay? fold p (at_ + 1) (some b) rest

def occurs (fold : UInt8 → UInt8) (p : Regex) (line : List UInt8) : Bool :=
  if p.refersBack then (firstWay? fold p 0 none line).isSome else occursIn [p] line

end CommandShell.Regex
