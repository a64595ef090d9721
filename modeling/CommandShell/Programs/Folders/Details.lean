import CommandShell.Programs.Folders.Modes

/-!
# What a file is

The kind of what stands at a location, what may be done with it, how many names it has, and how much
room it takes. Room is given out in whole blocks. The world keeps no times, so that all files count
as made at one moment.
-/
namespace CommandShell.Details

def kindLetter : Entry → Char
  | .folder _ => 'd'
  | .file _ => '-'
  | .link _ => 'l'
  | .device _ => 'c'

def modeText (e : Entry) : String :=
  String.singleton (kindLetter e) ++ Mode.letters (Mode.ofEntry e)

/-- How many names an entry has. A folder has its own, the one by which it knows itself, and one in
each of its folders. -/
def names (t : FileTree) (l : Location) : Entry → Nat
  | .folder _ => 2 + (t.entries.filter fun e => isFolder e.2 && e.1 ≠ [] && e.1.dropLast = l).length
  | .file f => (t.entries.filter fun e => match e.2 with
      | .file g => g.identity = f.identity
      | _ => false).length
  | _ => 1
where
  isFolder : Entry → Bool
    | .folder _ => true
    | _ => false

def blockSize : Nat := 4096

def size : Entry → Nat
  | .folder _ => blockSize
  | .file f => f.bytes.size
  | .link target => target.utf8ByteSize
  | .device _ => 0

/-- The room that an entry takes, in bytes. -/
def room : Entry → Nat
  | .folder _ => blockSize
  | .file f => (f.bytes.size + blockSize - 1) / blockSize * blockSize
  | _ => 0

def deviceNumbers : Device → Nat × Nat
  | .null => (1, 3)
  | .zero => (1, 5)
  | .full => (1, 7)
  | .terminal => (5, 0)

def timeText : String := "Jan  1 00:00"

/-- A number of bytes in the largest unit in which it is at least one, rounded up; below ten with
one place. -/
def scaled (base n : Nat) : String :=
  go 1 ["", if base = 1000 then "k" else "K", "M", "G", "T", "P", "E"]
where
  go (factor : Nat) : List String → String
    | [] => toString n
    | unit :: rest =>
      if n < base * factor ∨ rest = [] then
        if unit = "" then toString n
        else
          let tenths := (10 * n + factor - 1) / factor
          if tenths < 100 then s!"{tenths / 10}.{tenths % 10}{unit}"
          else s!"{(n + factor - 1) / factor}{unit}"
      else go (base * factor) rest

/-- How amounts of bytes are shown: in a unit of one size with its letters behind, or in the largest
unit in which they are at least one. -/
inductive Scale
  | steady (unit : Nat) (letters : String)
  | growing (base : Nat)
  deriving DecidableEq, Repr

def Scale.text (s : Scale) (n : Nat) : String :=
  match s with
  | steady unit letters => s!"{(n + unit - 1) / unit}{letters}"
  | growing base => scaled base n

/-- The letters behind amounts in a unit that is given by its letters alone. -/
def shownLetters (text : String) : String :=
  match text.toList with
  | c :: rest =>
    let thousands : Bool := c.toLower == 'k' && rest.head? = some 'B'
    String.ofList ((if thousands then 'k' else c.toUpper) :: rest)
  | [] => ""

/-- Reads how amounts are shown from the name of a manner or of a unit. -/
def Scale.read (text : String) : Except Amount.Fault Scale :=
  match text with
  | "human-readable" => .ok (growing 1024)
  | "si" => .ok (growing 1000)
  | _ =>
    let unit := if text.toList.head? = some '\'' then String.ofList (text.toList.drop 1) else text
    (Amount.within 1 Amount.largest "EGgkKmMPTtYZ0" unit).map fun n =>
      steady n (if text.toList.any Char.isDigit then "" else shownLetters unit)

end CommandShell.Details
