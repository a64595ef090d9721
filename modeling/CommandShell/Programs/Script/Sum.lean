import CommandShell.Programs.Number.Real
import CommandShell.Programs.Script.Syntax

/-!
# Sums

Expressions over whole numbers of 64 bits and variables. What is not needed for the result, as
behind `1 ||`, is read but neither looked up nor assigned.
-/
namespace CommandShell.Script.Sum

/-- A number in the range of 64 bits that is equal to it up to a multiple of 2 ^ 64. -/
def wrap (n : Int) : Int := Int.bmod n (Nat.pow 2 64)

inductive Token
  | number (n : Int)
  | name (cs : Chars)
  | sign (text : String)
  deriving DecidableEq, Repr

/-- Signs, the longer ones first. -/
def signs : List String :=
  ["<<=", ">>=", "<<", ">>", "<=", ">=", "==", "!=", "&&", "||", "+=", "-=", "*=", "/=", "%=", "&=",
    "^=", "|=", "+", "-", "*", "/", "%", "<", ">", "=", "!", "~", "&", "^", "|", "(", ")", "?", ":"]

def isGap (c : Char) : Bool := c == ' ' || ('\t' ≤ c && c ≤ '\r')

/-- The largest number; what lies beyond it is read as it. -/
def largest : Int := Nat.pow 2 63 - 1

/-- Digits at the front in the base that they themselves say, and the rest. -/
def digits (cs : Chars) : Option (Nat × Chars) :=
  let of (base : Nat) (kind : Char → Bool) (cs : Chars) : Option (Nat × Chars) :=
    let found := cs.takeWhile kind
    if found = [] then none else some (Real.ofDigits base found, cs.drop found.length)
  match cs with
  | '0' :: x :: rest =>
    let hex := if x = 'x' ∨ x = 'X' then of 16 Real.isHexDigit rest else none
    hex.or (of 8 (fun c => '0' ≤ c && c ≤ '7') cs)
  | cs => of 10 Char.isDigit cs

/-- The tokens of an expression; a character that starts none ends it, as the sign it is. -/
def tokens : Nat → Chars → List Token
  | 0, _ => []
  | _, [] => []
  | fuel + 1, c :: rest =>
    if isGap c then tokens fuel rest
    else if isNameStart c then
      let name := (c :: rest).takeWhile isNameChar
      .name name :: tokens fuel ((c :: rest).drop name.length)
    else
      match if c.isDigit then digits (c :: rest) else none with
      | some (n, rest) => .number (min n largest) :: tokens fuel rest
      | none =>
        match signs.find? fun s => s.toList.isPrefixOf (c :: rest) with
        | some s => .sign s :: tokens fuel ((c :: rest).drop s.length)
        | none => [.sign c.toString]

def ofText (cs : Chars) : Except String Int :=
  let illegal : Except String Int := .error s!"Illegal number: {String.ofList cs}"
  if cs.all isGap then .ok 0
  else
    let trimmed := cs.dropWhile isGap
    let (negative, body) := match trimmed with
      | '-' :: rest => (true, rest)
      | '+' :: rest => (false, rest)
      | rest => (false, rest)
    match digits body with
    | none => illegal
    | some (n, rest) =>
      let n : Int := if negative then -n else n
      if rest.all isGap ∧ -largest - 1 ≤ n ∧ n ≤ largest then .ok n else illegal

def rank? (sign : String) : Option Nat :=
  match sign with
  | "||" => some 0
  | "&&" => some 1
  | "|" => some 2
  | "^" => some 3
  | "&" => some 4
  | "==" => some 5
  | "!=" => some 5
  | "<" => some 6
  | ">" => some 6
  | "<=" => some 6
  | ">=" => some 6
  | "<<" => some 7
  | ">>" => some 7
  | "+" => some 8
  | "-" => some 8
  | "*" => some 9
  | "/" => some 9
  | "%" => some 9
  | _ => none

def truth (b : Bool) : Int := if b then 1 else 0

def bits (n : Int) : Nat := (n % Nat.pow 2 64).toNat

def apply (sign : String) (a b : Int) : Except String Int :=
  match sign with
  | "|" => .ok (wrap (bits a ||| bits b))
  | "^" => .ok (wrap (bits a ^^^ bits b))
  | "&" => .ok (wrap (bits a &&& bits b))
  | "==" => .ok (truth (a == b))
  | "!=" => .ok (truth (a != b))
  | "<" => .ok (truth (a < b))
  | ">" => .ok (truth (a > b))
  | "<=" => .ok (truth (a ≤ b))
  | ">=" => .ok (truth (a ≥ b))
  | "<<" => .ok (wrap (a * Nat.pow 2 (bits b % 64)))
  | ">>" => .ok (a / Nat.pow 2 (bits b % 64))
  | "+" => .ok (wrap (a + b))
  | "-" => .ok (wrap (a - b))
  | "*" => .ok (wrap (a * b))
  | "/" => if b = 0 then .error "division by zero" else .ok (wrap (a.tdiv b))
  | "%" => if b = 0 then .error "division by zero" else .ok (wrap (a.tmod b))
  | _ => .error "expecting EOF"

/-- The sign between the operands of an assignment that computes. -/
def assigning? (sign : String) : Option (Option String) :=
  if sign = "=" then some none
  else if signs.contains sign ∧ sign.endsWith "=" ∧ (rank? sign).isNone then
    some (some (String.ofList sign.toList.dropLast))
  else none

/-- The values of variables, of which those in front are new. -/
structure Table where
  new : List (Chars × Int)
  old : Chars → Option Chars

def Table.get (t : Table) (name : Chars) : Except String Int :=
  match t.new.lookup name with
  | some n => .ok n
  | none =>
    match t.old name with
    | none => .ok 0
    | some cs => ofText cs

/-- The variables and what is still to be read. -/
structure State where
  table : Table
  rest : List Token

abbrev Evaluation := StateT State (Except String)

def fail {α : Type} (what : String) : Evaluation α := throw what

def next? : Evaluation (Option Token) := do
  let s ← get
  match s.rest with
  | [] => return none
  | t :: rest =>
    set { s with rest }
    return some t

def peek? : Evaluation (Option Token) := return (← get).rest.head?

def skip : Evaluation Unit := modify fun s => { s with rest := s.rest.drop 1 }

/-- Makes what the program says an outcome of the whole. -/
def lift (e : Except String Int) : Evaluation Int :=
  match e with
  | .ok n => return n
  | .error message => fail message

mutual

/-- An assignment, or a condition with its two values; `needed` says whether it counts, and `fuel`
bounds the steps. -/
def assignment : Nat → Bool → Evaluation Int
  | 0, _ => fail "too deep"
  | fuel + 1, needed => do
    match (← get).rest with
    | .name name :: .sign sign :: rest =>
      match assigning? sign with
      | none => condition fuel needed
      | some operation =>
        modify fun s => { s with rest }
        let value ← assignment fuel needed
        if needed then
          let table := (← get).table
          let value ← match operation with
            | none => pure value
            | some sign => lift (do apply sign (← table.get name) value)
          modify fun s => { s with table := { s.table with new := (name, value) :: s.table.new } }
          return value
        else return value
    | _ => condition fuel needed

def condition : Nat → Bool → Evaluation Int
  | 0, _ => fail "too deep"
  | fuel + 1, needed => do
    let a ← binary fuel needed 0
    if (← peek?) = some (.sign "?") then
      skip
      let b ← assignment fuel (needed && a != 0)
      if (← next?) = some (.sign ":") then
        let c ← condition fuel (needed && a == 0)
        return if a != 0 then b else c
      else fail "expecting ':'"
    else return a

/-- Operands with signs between them that bind at least as tightly as `least`. -/
def binary : Nat → Bool → Nat → Evaluation Int
  | 0, _, _ => fail "too deep"
  | fuel + 1, needed, least => do further fuel needed least (← unary fuel needed)

def further : Nat → Bool → Nat → Int → Evaluation Int
  | 0, _, _, _ => fail "too deep"
  | fuel + 1, needed, least, a => do
    match ← peek? with
    | some (.sign sign) =>
      match rank? sign with
      | none => return a
      | some rank =>
        if rank < least then return a
        else
          skip
          let result ← match sign with
            | "||" => do
              let b ← binary fuel (needed && a == 0) (rank + 1)
              pure (truth (a != 0 || b != 0))
            | "&&" => do
              let b ← binary fuel (needed && a != 0) (rank + 1)
              pure (truth (a != 0 && b != 0))
            | sign => do
              let b ← binary fuel needed (rank + 1)
              if needed then lift (apply sign a b) else pure b
          further fuel needed least result
    | _ => return a

def unary : Nat → Bool → Evaluation Int
  | 0, _ => fail "too deep"
  | fuel + 1, needed => do
    match ← next? with
    | some (.number n) => return n
    | some (.name name) =>
      if needed then lift ((← get).table.get name) else return 0
    | some (.sign "(") =>
      let n ← assignment fuel needed
      if (← next?) = some (.sign ")") then return n else fail "expecting ')'"
    | some (.sign "+") => unary fuel needed
    | some (.sign "-") => return wrap (-(← unary fuel needed))
    | some (.sign "!") => return truth ((← unary fuel needed) == 0)
    | some (.sign "~") => return wrap (-(← unary fuel needed) - 1)
    | _ => fail "expecting primary"

end

/-- The value of an expression and the variables that it assigns, the newest first. -/
def evaluate (old : Chars → Option Chars) (cs : Chars) :
    Except String (Int × List (Chars × Int)) :=
  let ts := tokens (cs.length + 1) cs
  let whole : Evaluation Int := do
    let n ← assignment (8 * ts.length + 8) true
    if (← get).rest = [] then return n else fail "expecting EOF"
  match StateT.run whole ⟨⟨[], old⟩, ts⟩ with
  | .ok (n, s) => .ok (n, s.table.new)
  | .error message =>
    .error (if message.startsWith "Illegal" then message
      else s!"arithmetic expression: {message}: \"{String.ofList cs}\"")

end CommandShell.Script.Sum
