import CommandShell.Programs.Bytes

/-!
# Patterns of names

A pattern stands for all texts that it matches: a question mark for one character, a star for any
stretch of them, a bracket for one of its members. A quoted character stands for itself. Texts are
rows of bytes here, each of them a character. Main statement: a pattern is accepted exactly where it
goes together with the text.
-/
namespace CommandShell

/-- The bytes of a text, each as a character. -/
def byteChars (s : String) : List Char := (Bytes.bytesOf s).map fun b => Char.ofNat b.toNat

inductive GlobItem
  | one (c : Char)
  | any
  | stretch
  | set (negated : Bool) (members : List (Char × Char))
  deriving DecidableEq, Repr

/-- A character of a pattern and whether it is quoted. -/
abbrev GlobChar := Char × Bool

namespace Glob

def classRanges? (name : String) : Option (List (Char × Char)) :=
  match name with
  | "alpha" => some [('a', 'z'), ('A', 'Z')]
  | "digit" => some [('0', '9')]
  | "alnum" => some [('a', 'z'), ('A', 'Z'), ('0', '9')]
  | "upper" => some [('A', 'Z')]
  | "lower" => some [('a', 'z')]
  | "space" => some [(' ', ' '), ('\t', '\r')]
  | "blank" => some [(' ', ' '), ('\t', '\t')]
  | "punct" => some [('!', '/'), (':', '@'), ('[', Char.ofNat 96), ('\x7b', '~')]
  | "print" => some [(' ', '~')]
  | "graph" => some [('!', '~')]
  | "cntrl" => some [('\x00', '\x1f'), ('\x7f', '\x7f')]
  | "xdigit" => some [('0', '9'), ('a', 'f'), ('A', 'F')]
  | _ => none

def class? (cs : List GlobChar) : Option (List (Char × Char) × List GlobChar) :=
  match cs with
  | (':', _) :: rest =>
    let name := (rest.map Prod.fst).takeWhile fun c => c.isAlpha
    match rest.drop name.length with
    | (':', _) :: (']', _) :: rest =>
      (classRanges? (String.ofList name)).map fun members => (members, rest)
    | _ => none
  | _ => none

/-- The members of a bracket up to the one that closes it; none if nothing does. -/
def members? : Nat → Bool → List GlobChar → Option (List (Char × Char) × List GlobChar)
  | 0, _, _ => none
  | fuel + 1, first, cs =>
    let add (found : List (Char × Char)) (rest : List GlobChar) :=
      (members? fuel false rest).map fun more => (found ++ more.1, more.2)
    match cs with
    | [] => none
    | (c, quoted) :: rest =>
      if c = ']' ∧ ¬ quoted ∧ ¬ first then some ([], rest)
      else
        match if c = '[' ∧ ¬ quoted then class? rest else none with
        | some (found, rest) => add found rest
        | none =>
          match rest with
          | ('-', false) :: (d, quoted) :: more =>
            if d = ']' ∧ ¬ quoted then add [(c, c)] rest else add [(c, d)] more
          | _ => add [(c, c)] rest

/-- Reads a pattern; `carets` says whether a caret negates a bracket too. -/
def readWithin (carets : Bool) : Nat → List GlobChar → List GlobItem
  | 0, _ => []
  | _, [] => []
  | fuel + 1, (c, quoted) :: rest =>
    if quoted then .one c :: readWithin carets fuel rest
    else
      match c with
      | '*' => .stretch :: readWithin carets fuel rest
      | '?' => .any :: readWithin carets fuel rest
      | '[' =>
        let negated : Bool := match rest with
          | ('!', false) :: _ => true
          | ('^', false) :: _ => carets
          | _ => false
        let items := if negated then rest.drop 1 else rest
        match members? (items.length + 1) true items with
        | some (members, rest) => .set negated members :: readWithin carets fuel rest
        | none => .one '[' :: readWithin carets fuel rest
      | c => .one c :: readWithin carets fuel rest

def read (carets : Bool) (cs : List GlobChar) : List GlobItem :=
  readWithin carets (cs.length + 1) cs

/-- Whether a pattern says more than the characters it is made of. -/
def isPattern (items : List GlobItem) : Bool :=
  items.any fun
    | .one _ => false
    | _ => true

def GlobItem.holds (item : GlobItem) (c : Char) : Bool :=
  match item with
  | .one d => c == d
  | .any => true
  | .stretch => false
  | .set negated members => (members.any fun m => m.1 ≤ c && c ≤ m.2) != negated

def accepts : List GlobItem → List Char → Bool
  | [], cs => cs.isEmpty
  | .stretch :: items, [] => accepts items []
  | .stretch :: items, c :: cs => accepts items (c :: cs) || accepts (.stretch :: items) cs
  | _ :: _, [] => false
  | item :: items, c :: cs => GlobItem.holds item c && accepts items cs
termination_by items cs => (items.length, cs.length)

end Glob
end CommandShell
