import CommandShell.Programs.Glob
import CommandShell.Programs.Regex.Basic

/-!
# Reading regular expressions

Two notations: in the basic one, groups, counts and alternatives are marked by a backslash, and a
star or a caret means something only where it can; in the extended one the bare characters do.
-/
namespace CommandShell

structure RegexForm where
  extended : Bool
  caseless : Bool
  deriving DecidableEq, Repr

/-- Why a text is no expression. -/
inductive RegexFault
  | openBracket
  | openGroup
  | closedGroup
  | openCount
  | badCount
  | tooBig
  | endsInBackslash
  | badClass
  | bareClass
  | badRange
  | badReference
  deriving DecidableEq, Repr

def RegexFault.message : RegexFault → String
  | openBracket => "Unmatched [, [^, [:, [., or [="
  | openGroup => "Unmatched ( or \\("
  | closedGroup => "Unmatched ) or \\)"
  | openCount => "Unmatched \x7b or \\\x7b"
  | badCount => "Invalid content of \\\x7b\\\x7d"
  | tooBig => "Regular expression too big"
  | endsInBackslash => "Trailing backslash"
  | badClass => "Invalid character class name"
  | bareClass => "character class syntax is [[:space:]], not [:space:]"
  | badRange => "Invalid range end"
  | badReference => "Invalid back reference"

namespace RegexReader

def byteOf (c : Char) : UInt8 := UInt8.ofNat c.toNat

/-- Both cases of a byte where cases are not told apart. -/
def casesOf (f : RegexForm) (b : UInt8) : List UInt8 :=
  if f.caseless then [Bytes.toLower b, Bytes.toUpper b] else [b]

def literal (f : RegexForm) (c : Char) : Regex := .set (.ofList (casesOf f (byteOf c)))

def wordClass : ByteClass :=
  .ofList ((List.range 256).filterMap fun n =>
    if isWordByte (UInt8.ofNat n) then some (UInt8.ofNat n) else none)

def spaceClass : ByteClass := .ofList [9, 10, 11, 12, 13, 32]

/-! ## Brackets -/

/-- A member of a bracket in a form of its own, behind the bracket that opens it: a class, a
character in points, or a character with its equals. -/
def inner? (mark : Char) (cs : List Char) : Option (List Char × List Char) :=
  let name := cs.takeWhile (· != mark)
  match cs.drop name.length with
  | m :: ']' :: rest => if m = mark then some (name, rest) else none
  | _ => none

/-- A single member, and the rest. -/
def member (cs : List Char) : Except RegexFault (Char × List Char) :=
  match cs with
  | [] => .error .openBracket
  | '[' :: m :: rest =>
    if m = '.' ∨ m = '=' then
      match inner? m rest with
      | some ([c], rest) => .ok (c, rest)
      | some _ => .error .badClass
      | none => .error .openBracket
    else .ok ('[', m :: rest)
  | c :: rest => .ok (c, rest)

def rangeOf (a b : Char) : List UInt8 :=
  (List.range' a.toNat (b.toNat + 1 - a.toNat)).map UInt8.ofNat

/-- The members of a bracket up to the one that closes it; `fuel` bounds the steps. -/
def members : Nat → Bool → List Char → Except RegexFault (List UInt8 × List Char)
  | 0, _, _ => .error .openBracket
  | fuel + 1, first, cs =>
    let add (found : List UInt8) (rest : List Char) : Except RegexFault (List UInt8 × List Char) :=
      (members fuel false rest).map fun more => (found ++ more.1, more.2)
    match cs with
    | [] => .error .openBracket
    | ']' :: rest =>
      if first then finishMember add ']' rest else .ok ([], rest)
    | '[' :: ':' :: rest =>
      match inner? ':' rest with
      | some (name, rest) =>
        match Glob.classRanges? (String.ofList name) with
        | some ranges => add (ranges.flatMap fun r => rangeOf r.1 r.2) rest
        | none => .error .badClass
      | none => finishMember add '[' (':' :: rest)
    | cs => do
      let (c, rest) ← member cs
      finishMember add c rest
where
  /-- Adds a member, or a range that it begins. -/
  finishMember (add : List UInt8 → List Char → Except RegexFault (List UInt8 × List Char))
      (c : Char) (rest : List Char) : Except RegexFault (List UInt8 × List Char) :=
    match rest with
    | '-' :: ']' :: _ => add [byteOf c] rest
    | '-' :: more => do
      let (d, more) ← member more
      if d < c then throw .badRange else add (rangeOf c d) more
    | rest => add [byteOf c] rest

/-- A bracket, behind the character that opens it. -/
def bracket (f : RegexForm) (cs : List Char) : Except RegexFault (Regex × List Char) := do
  let negated := cs.head? = some '^'
  let items := if negated then cs.drop 1 else cs
  let (found, rest) ← members (items.length + 1) true items
  let inside := items.take (items.length - rest.length - 1)
  if inside.head? = some ':' ∧ inside.getLast? = some ':' ∧ 1 < inside.length then throw .bareClass
  let set := ByteClass.ofList (found.flatMap (casesOf f))
  return (.set (if negated then set.complement else set), rest)

/-! ## Counts -/

def mostCount : Nat := 32767

/-- How often something may be matched; without an upper bound, as often as one likes. -/
structure Count where
  least : Nat
  most : Option Nat

inductive CountRead
  | found (count : Count) (rest : List Char)
  | plain
  | broken (fault : RegexFault)

def count (extended : Bool) (cs : List Char) : CountRead :=
  let first := cs.takeWhile Char.isDigit
  let number (ds : List Char) : Nat := ds.foldl (fun n c => 10 * n + (c.toNat - 48)) 0
  let rest := cs.drop first.length
  let (least, most, rest) : Option Nat × Option Nat × List Char := match rest with
    | ',' :: rest =>
      let second := rest.takeWhile Char.isDigit
      (some (number first), if second = [] then none else some (number second),
        rest.drop second.length)
    | rest =>
      if first = [] then (none, none, rest)
      else (some (number first), some (number first), rest)
  let closed : Option (List Char) := match extended, rest with
    | true, '\x7d' :: rest => some rest
    | false, '\\' :: '\x7d' :: rest => some rest
    | _, _ => none
  let ordered (least : Nat) : Bool := match most with
    | none => true
    | some most => least ≤ most
  match least, closed with
  | some least, some rest =>
    if !ordered least then .broken .badCount
    else if mostCount < most.getD least then .broken .tooBig
    else .found ⟨least, most⟩ rest
  | _, none =>
    if extended then .plain
    else .broken (if rest = [] then .openCount else .badCount)
  | none, some _ => if extended then .plain else .broken .badCount

def Count.apply (c : Count) (p : Regex) : Regex :=
  match c.most with
  | none => (p.times c.least).andThen (.many p)
  | some most => (p.times c.least).andThen (p.atMost (most - c.least))

/-! ## Expressions -/

/-- What reading has come across: how many groups have been opened, and which have been closed. -/
structure Groups where
  opened : Nat
  closed : List Nat

abbrev Reading := Except RegexFault (Regex × List Char × Groups)

def endsBranch (f : RegexForm) (inGroup : Bool) (cs : List Char) : Bool :=
  match f.extended, cs with
  | _, [] => true
  | true, '|' :: _ => true
  | true, ')' :: _ => inGroup
  | false, '\\' :: '|' :: _ => true
  | false, '\\' :: ')' :: _ => true
  | _, _ => false

/-- The mark that a letter stands for behind a backslash. -/
def mark? (c : Char) : Option Mark :=
  if c.toNat = 96 then some .lineStart
  else
    match c with
    | '\'' => some .lineEnd
    | '<' => some .wordStart
    | '>' => some .wordEnd
    | 'b' => some .wordEdge
    | 'B' => some .noWordEdge
    | _ => none

def class? (c : Char) : Option ByteClass :=
  match c with
  | 'w' => some wordClass
  | 'W' => some wordClass.complement
  | 's' => some spaceClass
  | 'S' => some spaceClass.complement
  | _ => none

/-- Whether a dollar sign is the end of the line here. -/
def atLineEnd (f : RegexForm) (rest : List Char) : Bool :=
  f.extended || rest = [] || (match rest with
    | '\\' :: ')' :: _ => true
    | '\\' :: '|' :: _ => true
    | _ => false)

/-- A sign of repetition at the front, and how often it repeats. -/
inductive Repetition
  | count (c : Count) (rest : List Char)
  | nothing
  | broken (fault : RegexFault)

def repetition (f : RegexForm) (atStart : Bool) (cs : List Char) : Repetition :=
  let star : Count := ⟨0, none⟩
  let plus : Count := ⟨1, none⟩
  let optional : Count := ⟨0, some 1⟩
  let braces (rest : List Char) : Repetition :=
    match count f.extended rest with
    | .found c rest => .count c rest
    | .plain => .nothing
    | .broken fault => .broken fault
  match f.extended, cs with
  | true, '*' :: rest => .count star rest
  | true, '+' :: rest => .count plus rest
  | true, '?' :: rest => .count optional rest
  | true, '\x7b' :: rest => braces rest
  | false, '*' :: rest => if atStart then .nothing else .count star rest
  | false, '\\' :: '+' :: rest => if atStart then .nothing else .count plus rest
  | false, '\\' :: '?' :: rest => if atStart then .nothing else .count optional rest
  | false, '\\' :: '\x7b' :: rest => braces rest
  | _, _ => .nothing

mutual

/-- Alternatives up to the end of a group, or of the text. -/
def alternatives (f : RegexForm) : Nat → Bool → List Char → Groups → Reading
  | 0, _, _, _ => .error .tooBig
  | fuel + 1, inGroup, cs, g => do
    let (first, rest, g) ← branch f fuel inGroup true .empty cs g
    match f.extended, rest with
    | true, '|' :: rest =>
      let (second, rest, g) ← alternatives f fuel inGroup rest g
      return (.either first second, rest, g)
    | false, '\\' :: '|' :: rest =>
      let (second, rest, g) ← alternatives f fuel inGroup rest g
      return (.either first second, rest, g)
    | _, rest => return (first, rest, g)

/-- Items one after the other. `start` says that only marks have been read. -/
def branch (f : RegexForm) : Nat → Bool → Bool → Regex → List Char → Groups → Reading
  | 0, _, _, _, _, _ => .error .tooBig
  | fuel + 1, inGroup, start, sofar, cs, g =>
    if endsBranch f inGroup cs then .ok (sofar, cs, g)
    else do
      let (item, marks, rest, g) ← atom f fuel start (sofar == .empty && start) cs g
      let start := start && marks
      let (item, rest, repeated) ← repeated f fuel start item rest
      branch f fuel inGroup (start && !repeated) (sofar.andThen item) rest g

/-- Repetitions behind an item, and whether there are any. -/
def repeated (f : RegexForm) : Nat → Bool → Regex → List Char →
    Except RegexFault (Regex × List Char × Bool)
  | 0, _, _, _ => .error .tooBig
  | fuel + 1, start, item, cs =>
    match repetition f start cs with
    | .count c rest => (repeated f fuel start (c.apply item) rest).map fun e => (e.1, e.2.1, true)
    | .nothing => .ok (item, cs, false)
    | .broken fault => .error fault

/-- One item, and whether it is a mark. `first` says that a branch begins here. -/
def atom (f : RegexForm) : Nat → Bool → Bool → List Char → Groups →
    Except RegexFault (Regex × Bool × List Char × Groups)
  | 0, _, _, _, _ => .error .tooBig
  | fuel + 1, start, first, cs, g =>
    let plain (c : Char) (rest : List Char) := Except.ok (literal f c, false, rest, g)
    let group (rest : List Char) : Except RegexFault (Regex × Bool × List Char × Groups) := do
      let n := g.opened + 1
      let (body, rest, g) ← alternatives f fuel true rest { g with opened := n }
      let g := { g with closed := n :: g.closed }
      match f.extended, rest with
      | true, ')' :: rest => return (.group n body, false, rest, g)
      | false, '\\' :: ')' :: rest => return (.group n body, false, rest, g)
      | _, _ => throw .openGroup
    match cs with
    | [] => .error .endsInBackslash
    | '[' :: rest => (bracket f rest).map fun e => (e.1, false, e.2, g)
    | '.' :: rest => .ok (.set .all, false, rest, g)
    | '^' :: rest =>
      if f.extended || first then .ok (.mark .lineStart, true, rest, g) else plain '^' rest
    | '$' :: rest =>
      if atLineEnd f rest then .ok (.mark .lineEnd, true, rest, g) else plain '$' rest
    | ['\\'] => .error .endsInBackslash
    | '\\' :: c :: rest =>
      match mark? c, class? c with
      | some m, _ => .ok (.mark m, true, rest, g)
      | _, some s => .ok (.set s, false, rest, g)
      | none, none =>
        if c = '(' ∧ ¬ f.extended then group rest
        else if '1' ≤ c ∧ c ≤ '9' then
          let n := c.toNat - 48
          if g.closed.contains n then .ok (.again n, false, rest, g) else .error .badReference
        else plain c rest
    | '(' :: rest => if f.extended then group rest else plain '(' rest
    | c :: rest =>
      let repeats : Bool := match repetition f start (c :: rest) with
        | .count .. => true
        | _ => false
      if f.extended ∧ start ∧ repeats then .ok (.empty, true, c :: rest, g) else plain c rest

end

def read (f : RegexForm) (cs : List Char) : Except RegexFault Regex := do
  let (found, rest, _) ← alternatives f (4 * cs.length + 8) false cs ⟨0, []⟩
  if rest = [] then return found else throw .closedGroup

def readLiteral (f : RegexForm) (cs : List Char) : Regex :=
  cs.foldr (fun c p => (literal f c).andThen p) .empty

end RegexReader
end CommandShell
