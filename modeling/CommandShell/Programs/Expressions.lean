import CommandShell.Programs.Options
import CommandShell.Programs.Naming
import CommandShell.Programs.Regex.Captures
import CommandShell.Programs.Regex.Reader

/-!
# Expressions of words

The tool that works out an expression in which each word is an operand or an operator. A value is a
text or a number; a text of digits counts as a number where one is asked for. What the first operand
of `|` or `&` has decided is read but not worked out.
-/
namespace CommandShell.Expressions
open Bytes

inductive Value
  | number (n : Int)
  | text (bytes : List UInt8)
  deriving DecidableEq, Repr

/-- Why there is no value. -/
inductive Fault
  | notWhole
  | divisionByZero
  | endsBehind (word : String)
  | unclosed (word : String)
  | notClosing (word : String)
  | closesNothing
  | leftOver (word : String)
  | pattern (message : String)
  deriving DecidableEq, Repr

def Fault.message : Fault → String
  | notWhole => "non-integer argument"
  | divisionByZero => "division by zero"
  | endsBehind word => s!"syntax error: missing argument after {Naming.literal word}"
  | unclosed word => s!"syntax error: expecting ')' after {Naming.literal word}"
  | notClosing word => s!"syntax error: expecting ')' instead of {Naming.literal word}"
  | closesNothing => "syntax error: unexpected ')'"
  | leftOver word => s!"syntax error: unexpected argument {Naming.literal word}"
  | pattern message => message

namespace Value

def ofText (s : String) : Value := text (bytesOf s)

def bytes : Value → List UInt8
  | number n => bytesOf (toString n)
  | text bytes => bytes

/-- Digits, with a minus sign in front of them or without. -/
def whole? : Value → Option Int
  | number n => some n
  | text bytes =>
    let (negative, digits) := match bytes with
      | 45 :: rest => (true, rest)
      | rest => (false, rest)
    if digits = [] ∨ ¬ digits.all fun b => 48 ≤ b && b ≤ 57 then none
    else
      let n : Int := readDigits (digits.map fun b => Char.ofNat b.toNat)
      some (if negative then -n else n)

/-- A number, or the fault of a text that is none. -/
def wholeOrFault (v : Value) : Except Fault Int :=
  match v.whole? with
  | some n => .ok n
  | none => .error .notWhole

def isNothing (v : Value) : Bool :=
  match v with
  | number n => n = 0
  | text bytes => bytes.isEmpty || v.whole? = some 0

def truth (b : Bool) : Value := number (if b then 1 else 0)

end Value

/-! ## Operators -/

inductive Relation
  | less
  | atMost
  | equal
  | unequal
  | atLeast
  | more
  deriving DecidableEq, Repr

inductive Operator
  | or
  | and
  | relation (r : Relation)
  | plus
  | minus
  | times
  | quotient
  | remainder
  | fits
  deriving DecidableEq, Repr

namespace Operator

def ofWord? (word : String) : Option Operator :=
  match word with
  | "|" => some or
  | "&" => some and
  | "<" => some (relation .less)
  | "<=" => some (relation .atMost)
  | "=" => some (relation .equal)
  | "==" => some (relation .equal)
  | "!=" => some (relation .unequal)
  | ">=" => some (relation .atLeast)
  | ">" => some (relation .more)
  | "+" => some plus
  | "-" => some minus
  | "*" => some times
  | "/" => some quotient
  | "%" => some remainder
  | ":" => some fits
  | _ => none

def rank : Operator → Nat
  | or => 0
  | and => 1
  | relation _ => 2
  | plus => 3
  | minus => 3
  | times => 4
  | quotient => 4
  | remainder => 4
  | fits => 5

end Operator

def Relation.holds {α : Type} [DecidableEq α] (r : Relation) (below : α → α → Bool) (a b : α) :
    Bool :=
  match r with
  | less => a ≠ b && below a b
  | atMost => below a b
  | equal => a = b
  | unequal => a ≠ b
  | atLeast => below b a
  | more => a ≠ b && below b a

/-- Two numbers are compared as numbers, anything else by its bytes. -/
def Relation.compare (r : Relation) (a b : Value) : Value :=
  match a.whole?, b.whole? with
  | some m, some n => .truth (r.holds (fun x y => decide (x ≤ y)) m n)
  | _, _ => .truth (r.holds precedes a.bytes b.bytes)

def patternMessage (cs : List Char) (fault : RegexFault) : String :=
  match fault, cs.reverse with
  | .openBracket, '[' :: _ => "Invalid regular expression"
  | .openBracket, '^' :: '[' :: _ => "Invalid regular expression"
  | .openCount, _ => "Unmatched \\\x7b"
  | fault, _ => fault.message

/-- What an expression matches at the front of a text: the text of its first group if it has one,
otherwise the number of bytes. -/
def matched (a b : Value) : Except Fault Value :=
  let cs := b.bytes.map fun byte => Char.ofNat byte.toNat
  match RegexReader.read ⟨false, false⟩ cs with
  | .error fault => .error (.pattern (patternMessage cs fault))
  | .ok p =>
    match p.longestWay? id none a.bytes, p.hasGroup with
    | some way, true => .ok (.text ((way.groups.lookup 1).getD []))
    | some way, false => .ok (.number (a.bytes.length - way.rest.length))
    | none, true => .ok (.text [])
    | none, false => .ok (.number 0)

def Operator.apply (o : Operator) (a b : Value) : Except Fault Value :=
  match o with
  | or => .ok (if !a.isNothing then a else if b.isNothing then .number 0 else b)
  | and => .ok (if a.isNothing || b.isNothing then .number 0 else a)
  | relation r => .ok (r.compare a b)
  | plus => return .number ((← a.wholeOrFault) + (← b.wholeOrFault))
  | minus => return .number ((← a.wholeOrFault) - (← b.wholeOrFault))
  | times => return .number ((← a.wholeOrFault) * (← b.wholeOrFault))
  | quotient => divided Int.tdiv
  | remainder => divided Int.tmod
  | fits => matched a b
where
  divided (f : Int → Int → Int) : Except Fault Value := do
    let (m, n) := (← a.wholeOrFault, ← b.wholeOrFault)
    if n = 0 then throw .divisionByZero else return .number (f m n)

def Operator.needsMore (o : Operator) (a : Value) : Bool :=
  match o with
  | or => a.isNothing
  | and => !a.isNothing
  | _ => true

/-! ## Functions -/

inductive Function
  | length
  | matching
  | index
  | substring
  deriving DecidableEq, Repr

namespace Function

def ofWord? (word : String) : Option Function :=
  match word with
  | "length" => some length
  | "match" => some matching
  | "index" => some index
  | "substr" => some substring
  | _ => none

def arity : Function → Nat
  | length => 1
  | matching => 2
  | index => 2
  | substring => 3

def apply (f : Function) (values : List Value) : Except Fault Value :=
  match f, values with
  | length, [a] => .ok (.number a.bytes.length)
  | matching, [a, b] => matched a b
  | index, [a, b] =>
    .ok (.number (match a.bytes.findIdx? b.bytes.contains with
      | some i => i + 1
      | none => 0))
  | substring, [a, start, size] =>
    match start.whole?, size.whole? with
    | some start, some size =>
      if start ≤ 0 ∨ size ≤ 0 then .ok (.text [])
      else .ok (.text ((a.bytes.drop (start.toNat - 1)).take size.toNat))
    | _, _ => .ok (.text [])
  | _, _ => .ok (.text [])

end Function

/-! ## Reading -/

/-- The words that are left, and the one before them. -/
structure Place where
  before : String
  rest : List String

def Place.next? (p : Place) : Except Fault (String × Place) :=
  match p.rest with
  | [] => .error (.endsBehind p.before)
  | word :: rest => .ok (word, ⟨word, rest⟩)

abbrev Reading := Except Fault (Value × Place)

mutual

/-- An operand. `live` says whether it is worked out. -/
def operand : Nat → Bool → Place → Reading
  | 0, _, p => .error (.endsBehind p.before)
  | fuel + 1, live, p => do
    let (word, q) ← p.next?
    if word = "+" then
      let (quoted, q) ← q.next?
      return (.ofText quoted, q)
    match Function.ofWord? word with
    | some f =>
      let (values, q) ← operands fuel live f.arity q
      let v ← if live then f.apply values else pure (.number 0)
      return (v, q)
    | none =>
      if word = "(" then
        let (v, q) ← expression fuel live 0 q
        match q.rest with
        | [] => throw (.unclosed q.before)
        | ")" :: rest => return (v, ⟨")", rest⟩)
        | other :: _ => throw (.notClosing other)
      else if word = ")" then throw .closesNothing
      else return (.ofText word, q)

def operands : Nat → Bool → Nat → Place → Except Fault (List Value × Place)
  | 0, _, _, p => .error (.endsBehind p.before)
  | _, _, 0, p => .ok ([], p)
  | fuel + 1, live, n + 1, p => do
    let (v, p) ← operand fuel live p
    let (vs, p) ← operands fuel live n p
    return (v :: vs, p)

/-- An expression whose operators bind at least as tightly as `rank` says. -/
def expression : Nat → Bool → Nat → Place → Reading
  | 0, _, _, p => .error (.endsBehind p.before)
  | fuel + 1, live, rank, p => do
    let (v, p) ← operand fuel live p
    further fuel live rank v p

/-- The operators behind a first operand, from the left to the right. -/
def further : Nat → Bool → Nat → Value → Place → Reading
  | 0, _, _, _, p => .error (.endsBehind p.before)
  | fuel + 1, live, rank, v, p =>
    match p.rest with
    | [] => .ok (v, p)
    | word :: rest =>
      match Operator.ofWord? word with
      | none => .ok (v, p)
      | some o =>
        if o.rank < rank then .ok (v, p)
        else do
          let needed := live && o.needsMore v
          let (second, p) ← expression fuel needed (o.rank + 1) ⟨word, rest⟩
          let v ← if live then (if needed then o.apply v second else o.apply v v) else pure v
          further fuel live rank v p

end

def evaluate (words : List String) : Except Fault Value := do
  let (v, p) ← expression (4 * words.length + 4) true 0 ⟨"", words⟩
  match p.rest with
  | [] => return v
  | word :: _ => throw (.leftOver word)

def expr : Tool := fun job w =>
  let words := if job.args.head? = some "--" then job.args.drop 1 else job.args
  if words = [] then (Tool.misused job "missing operand" 2, w)
  else
    match evaluate words with
    | .error fault => (.of [s!"{job.name}: {fault.message}"] .empty 2 job.input.bytes, w)
    | .ok v => (.of [] (unlines [v.bytes]) (if v.isNothing then 1 else 0) job.input.bytes, w)

end CommandShell.Expressions
