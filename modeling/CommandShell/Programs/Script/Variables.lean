import CommandShell.Programs.Script.Fields
import CommandShell.Programs.Script.Letters

/-!
# Variables of scripts

The commands that mark, assign and take away variables, or read them from the input, from the
arguments and from options among those.
-/
namespace CommandShell.Script.Builtin
open Bytes

/-- A value in quotes, so that a script reads it as it is. -/
def quotedValue (cs : Chars) : Chars :=
  if cs = [] then "''".toList
  else
    let pieces := (cs.splitOn '\'').map fun p => if p = [] then [] else '\'' :: p ++ ['\'']
    List.intercalate ("\"'\"".toList) pieces

/-- Variables in the order of their names, one a line. -/
def listing (before : String) (vs : List (Chars × Variable)) : ByteArray :=
  let sorted := vs.mergeSort fun a b => precedes a.1 b.1
  concat (sorted.map fun (name, v) =>
    let value : Chars := match v.value with
      | none => []
      | some value => '=' :: quotedValue value
    charBytes (before.toList ++ name ++ value ++ ['\n']))

def assignmentOf (word : Chars) : Chars × Option Chars :=
  let name := word.takeWhile (· != '=')
  (name, if name.length < word.length then some (word.drop (name.length + 1)) else none)

/-- Marks variables, and assigns those that come with a value. -/
def mark (command : String) (change : Variable → Variable) : Builtin := withLetters "p" fun l s =>
  if l.has 'p' || l.operands.isEmpty then
    let isMarked (v : Variable) : Bool :=
      (change v).exported == v.exported && (change v).fixed == v.fixed
    .ok (s.succeed.write (listing (command ++ " ") (s.values.filter fun e => isMarked e.2)))
  else
    l.operands.foldlM (fun (s : State) word => do
      let (name, value) := assignmentOf word
      if !isName name then throw s!"{textOf name}: bad variable name"
      let s ← match value with
        | some value => s.assign name value
        | none => pure s
      let v := (s.named? name).getD ⟨none, false, false⟩
      return s.setVariable name (change v)) s.succeed

def exportAll : Builtin := mark "export" fun v => { v with exported := true }

def readonly : Builtin := mark "readonly" fun v => { v with fixed := true }

def unset : Builtin := withLetters "vf" fun l s =>
  let functions := l.last? = some 'f'
  l.operands.foldlM (fun (s : State) name => do
    if functions then return { s with functions := s.functions.filter (·.1 ≠ name) }
    else if !isName name then throw s!"{textOf name}: bad variable name"
    else
      match s.named? name with
      | some v =>
        if v.fixed then throw s!"{textOf name}: is read only"
        return s.removeVariable name
      | none => return s) s.succeed

/-- Gives a variable a value of its own until the function ends; a dash alone does so for the
options. -/
def local_ : Builtin := fun args s =>
  match s.locals with
  | [] => .error "not in a function"
  | frame :: frames =>
    let options := if args.contains ['-'] then frame.options.or (some s.options) else frame.options
    let names := (args.filter (· ≠ ['-'])).map fun a => (assignmentOf a).1
    let saved := (names.filter fun n => !frame.values.any (·.1 = n)).map fun n => (n, s.named? n)
    let s := { s with locals := ⟨saved ++ frame.values, options⟩ :: frames }
    args.foldlM (fun (s : State) word =>
      match assignmentOf word with
      | (name, some value) => s.assign name value
      | (name, none) =>
        if name = ['-'] ∨ isName name then .ok s
        else .error s!"{textOf name}: bad variable name") s.succeed

def shift : Builtin := fun args s => do
  let n ← match args with
    | [] => pure 1
    | word :: _ => number word
  if s.args.length < n then throw "can't shift that many"
  else return { s with args := s.args.drop n, status := 0, optionOffset := 0 }

/-! ## Reading -/

/-- Whether a piece separates fields, and if so, whether it is a blank. -/
def separates (separators : Chars) (p : Piece) : Option Bool :=
  match p with
  | .char c _ true => if separators.contains c then some (Cutting.isBlank c) else none
  | _ => none

/-- The first field of pieces and what stands behind its separator. -/
def firstField (separators : Chars) (ps : List Piece) : List Piece × List Piece :=
  let isBlank (p : Piece) : Bool := separates separators p == some true
  let ps := ps.dropWhile isBlank
  let field := ps.takeWhile fun p => (separates separators p).isNone
  match ps.drop field.length with
  | [] => (field, [])
  | p :: rest =>
    let rest := rest.dropWhile isBlank
    match isBlank p, rest with
    | true, q :: more =>
      (field, if separates separators q = some false then more.dropWhile isBlank else q :: more)
    | _, rest => (field, rest)

/-- As many fields as there are names; the last takes all that is left, without blanks at its ends,
and without a separator that only ends it. -/
def spread (separators : Chars) : List Chars → List Piece → List (Chars × Chars)
  | [], _ => []
  | [name], ps =>
    let isBlank (p : Piece) : Bool := separates separators p == some true
    let ps := ps.dropWhile isBlank
    match cutFields separators ps with
    | [] => [(name, [])]
    | [field] => [(name, Piece.chars field)]
    | _ => [(name, Piece.chars (ps.reverse.dropWhile isBlank).reverse)]
  | name :: names, ps =>
    let (field, rest) := firstField separators ps
    (name, Piece.chars field) :: spread separators names rest

/-- The pieces of a line of input, whether its end was there, and the rest. A backslash quotes the
character behind it, and joins lines. -/
def inputLine (plain : Bool) : Chars → List Piece × Bool × Chars
  | [] => ([], false, [])
  | '\n' :: rest => ([], true, rest)
  | '\\' :: rest =>
    if plain then
      let (ps, ended, rest) := inputLine plain rest
      (.char '\\' false true :: ps, ended, rest)
    else
      match rest with
      | [] => ([], false, [])
      | c :: rest =>
        let (ps, ended, rest) := inputLine plain rest
        (if c = '\n' then ps else .char c true false :: ps, ended, rest)
  | c :: rest =>
    let (ps, ended, rest) := inputLine plain rest
    (.char c false true :: ps, ended, rest)

/-- Assigns fields to variables up to the first that cannot be assigned. -/
def assignFields : List (Chars × Chars) → State → State
  | [], s => s
  | (name, value) :: rest, s =>
    match if isName name then s.assign name value
      else .error s!"{textOf name}: bad variable name" with
    | .ok s => assignFields rest s
    | .error message => (s.complain message).ends 2

def read : Builtin := withLetters "p:r" fun l s => do
  let names := l.operands
  if names = [] then throw "arg count"
  let cs := charsOf (s.offer 0).bytes
  let (ps, ended, rest) := inputLine (l.has 'r') cs
  let s := s.leave 0 (charBytes rest)
  return assignFields (spread s.separators names ps) (s.ends (if ended then 0 else 1))

/-! ## Options of a script's own arguments -/

/-- What is read of options: the letter, its value, how many words are used up, and how far the
present word has been read. -/
structure OptionStep where
  letter : Char
  value : Option Chars
  index : Nat
  offset : Nat
  done : Bool
  complaint : Option String

/-- Reads the next option behind `index` words; `pending` is what is left of the last of them. -/
def nextOption (table : Chars) (args : List Chars) (index : Nat) (pending : Chars) (offset : Nat) :
    OptionStep :=
  let ended (index : Nat) : OptionStep := ⟨'?', none, index, 0, true, none⟩
  let quiet : Bool := table.head? = some ':'
  let read (c : Char) (more : Chars) (index offset : Nat) : OptionStep :=
    let place := if more = [] then 0 else offset
    match table.dropWhile (· != c) with
    | [] => if quiet then ⟨'?', some [c], index, place, false, none⟩
      else ⟨'?', none, index, place, false, some s!"Illegal option -{c}"⟩
    | _ :: ':' :: _ =>
      if more ≠ [] then ⟨c, some more, index, 0, false, none⟩
      else
        match args[index]? with
        | some value => ⟨c, some value, index + 1, 0, false, none⟩
        | none => if quiet then ⟨':', some [c], index, 0, false, none⟩
          else ⟨'?', none, index, 0, false, some s!"No arg for -{c} option"⟩
    | _ => ⟨c, some [], index, place, false, none⟩
  match pending with
  | c :: more => if c = ':' then ⟨'?', none, index, 0, false, some s!"Illegal option -{c}"⟩
    else read c more index (offset + 1)
  | [] =>
    match args[index]? with
    | some ['-', '-'] => ended (index + 1)
    | some ('-' :: c :: more) => read c more (index + 1) 2
    | _ => ended index

def getopts : Builtin := fun words s => do
  match words with
  | table :: name :: rest =>
    let args := if rest = [] then s.args else rest
    let index := ((number? ((s.value? "OPTIND".toList).getD [])).getD 1) - 1
    let (index, offset) := if args.length < index then (0, 0) else (index, s.optionOffset)
    let pending := if offset = 0 then [] else (args.getD (index - 1) []).drop offset
    let step := nextOption table args index pending offset
    let s := match step.complaint with
      | some text => s.report (text ++ "\n")
      | none => s
    let s ← match step.value, step.done with
      | some value, _ => s.assign "OPTARG".toList value
      | none, true => pure s
      | none, false => pure (s.removeVariable "OPTARG".toList)
    let s ← s.assign "OPTIND".toList (toString (step.index + 1)).toList
    if !isName name then throw s!"{textOf name}: bad variable name"
    let s ← s.assign name [step.letter]
    return { s with optionOffset := step.offset, status := if step.done then 1 else 0 }
  | _ => throw "Usage: getopts optstring var [arg...]"

end CommandShell.Script.Builtin
