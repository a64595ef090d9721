import CommandShell.Programs.Script.State

/-!
# Options of a script's own commands

Letters behind a dash in front of the operands. A word may hold several letters; one that wants a
value takes the rest of its word, or else the next word. Two dashes alone end the options.
-/
namespace CommandShell.Script

/-- Letters that are given, each with its value, and the operands. -/
structure Letters where
  given : List (Char × Chars)
  operands : List Chars

namespace Letters

def has (l : Letters) (c : Char) : Bool := l.given.any (·.1 = c)

def last? (l : Letters) : Option Char := l.given.getLast?.map Prod.fst

/-- The letters of a word, and the last one if its value is still to come. In the table a colon
stands behind a letter that wants a value. -/
def ofWord (table : Chars) : Chars → Except String (List (Char × Chars) × Option Char)
  | [] => .ok ([], none)
  | c :: more =>
    let illegal := s!"Illegal option -{c}"
    match table.dropWhile (· != c) with
    | [] => .error illegal
    | _ :: ':' :: _ => if more = [] then .ok ([], some c) else .ok ([(c, more)], none)
    | _ => do
      if c = ':' then throw illegal
      let (given, wanting) ← ofWord table more
      return ((c, []) :: given, wanting)

def read (table : Chars) : List Chars → Except String Letters
  | ['-', '-'] :: operands => .ok ⟨[], operands⟩
  | ['-'] :: operands => .ok ⟨[], ['-'] :: operands⟩
  | ('-' :: letters) :: value :: rest => do
    let (given, wanting) ← ofWord table letters
    match wanting with
    | some c =>
      let l ← read table rest
      return { l with given := given ++ (c, value) :: l.given }
    | none =>
      let l ← read table (value :: rest)
      return { l with given := given ++ l.given }
  | [('-' :: letters)] => do
    let (given, wanting) ← ofWord table letters
    match wanting with
    | some c => throw s!"No arg for -{c} option"
    | none => return ⟨given, []⟩
  | operands => .ok ⟨[], operands⟩
termination_by words => words.length

end Letters

/-! ## Commands of scripts -/

/-- A command of scripts: the state it leaves, or a complaint. -/
abbrev Builtin := List Chars → State → Except String State

namespace Builtin

def number (cs : Chars) : Except String Nat :=
  match number? cs with
  | some n => .ok n
  | none => .error s!"Illegal number: {textOf cs}"

def withLetters (table : String) (f : Letters → State → Except String State) : Builtin :=
  fun args s => do f (← Letters.read table.toList args) s

end Builtin
end CommandShell.Script
