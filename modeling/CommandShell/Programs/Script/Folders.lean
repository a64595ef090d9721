import CommandShell.Programs.Printing.Escapes
import CommandShell.Programs.Script.Letters

/-!
# Folders of scripts

A script goes from folder to folder and remembers the one before, and it says which permissions new
files and folders do not get.
-/
namespace CommandShell.Script.Builtin

/-- A path from the root with its dots taken out, the last name first. -/
def folded (names : List Chars) (path : Chars) : List Chars :=
  (path.splitOn '/').foldl (fun names part =>
    if part = [] ∨ part = ['.'] then names
    else if part = ['.', '.'] then names.drop 1
    else part :: names) names

def absolute (from_ path : Chars) : Chars :=
  let start := if path.head? = some '/' then [] else folded [] from_
  '/' :: List.intercalate ['/'] (folded start path).reverse

def enter (path : Chars) (s : State) : Option (Except String State) :=
  match s.world.follow (textOf path) with
  | .ok (.folder place) =>
    let before := s.folder
    let s := s.withWorld { s.world with place }
    some (do
      let s ← s.assignExported "OLDPWD".toList before
      let s ← s.assignExported "PWD".toList path
      let remembered := s.remembered.map fun r => { r with stale := true }
      return { s with folder := path, status := 0, remembered })
  | _ => none

/-- The folders in which a name is looked for before the working folder. -/
def searched (path : Chars) (s : State) : List Chars :=
  match path.takeWhile (· != '/') with
  | [] => []
  | ['.'] => []
  | ['.', '.'] => []
  | _ =>
    match s.value? "CDPATH".toList with
    | none => []
    | some list => list.splitOn ':'

def cd : Builtin := withLetters "LP" fun l s =>
  let physical := l.last? = some 'P'
  let (path, shows) := match l.operands with
    | [] => ((s.value? "HOME".toList).getD [], false)
    | ['-'] :: _ => ((s.value? "OLDPWD".toList).getD [], true)
    | path :: _ => (path, false)
  let goal (base : Chars) : Chars :=
    absolute s.folder (if base = [] then path else base ++ '/' :: path)
  let arrive (s : State) : Except String State :=
    if physical then
      match s.world.folderText with
      | some text => do
        let s ← s.assignExported "PWD".toList (byteChars text)
        return { s with folder := byteChars text }
      | none => .ok s
    else .ok s
  let attempt (base : Chars) : Option (Except String State) :=
    (enter (goal base) s).map fun found => do
      let s ← arrive (← found)
      return if shows || base ≠ [] then s.print (textOf s.folder) else s
  match ((searched path s) ++ [[]]).findSome? attempt with
  | some found => found
  | none => .error s!"can't cd to {textOf path}"

def pwd : Builtin := withLetters "LP" fun l s =>
  let text := if l.last? = some 'P' then s.world.folderText.getD (textOf s.folder)
    else textOf s.folder
  .ok (s.succeed.print text)

/-! ## Permissions of what is new -/

/-- A mask as it is read: three digits behind a zero. -/
def maskDigits (mask : Nat) : String :=
  String.ofList ('0' :: [mask >>> 6 &&& 7, mask >>> 3 &&& 7, mask &&& 7].map Nat.digitChar)

def maskLetters (mask : Nat) : String :=
  let three (bits : Nat) : String :=
    (if bits &&& 4 = 0 then "r" else "") ++ (if bits &&& 2 = 0 then "w" else "") ++
      (if bits &&& 1 = 0 then "x" else "")
  s!"u={three (mask >>> 6)},g={three (mask >>> 3)},o={three mask}"

/-- The bit of a letter for a class in front of a sign. -/
def classBit (c : Char) : Nat :=
  match c with
  | 'a' => 0o111
  | 'u' => 0o100
  | 'g' => 0o010
  | _ => 0o001

/-- The bits that a letter behind a sign stands for, where `mode` was left before. -/
def permissionBits (mode : Nat) (c : Char) : Nat :=
  match c with
  | 'r' => 4
  | 'w' => 2
  | 'x' => 1
  | 'u' => mode >>> 6
  | 'g' => mode >>> 3
  | 'o' => mode
  | 'X' => if mode &&& 0o111 = 0 then 0 else 1
  | _ => 0

/-- The permissions that are left after changes in letters, where `mode` was left before the first
of them; none if the text is not read to its end. `fuel` bounds the number of signs. -/
def changedMode (mode : Nat) : Nat → Nat → Nat → Chars → Option Nat
  | 0, _, _, _ => none
  | _, left, _, [] => some left
  | fuel + 1, left, classes, cs =>
    let given := cs.takeWhile fun c => "augo".contains c
    let classes := (given.map classBit).foldl (· ||| ·) classes
    let classes := if classes = 0 then 0o111 else classes
    match cs.drop given.length with
    | [] => some left
    | sign :: rest =>
      if !"=+-".contains sign then none
      else
        let letters := rest.takeWhile fun c => "rwxugoXs".contains c
        let bits := ((letters.map (permissionBits mode)).foldl (· ||| ·) 0 &&& 7) * classes
        let left := match sign with
          | '-' => left - (left &&& bits)
          | '+' => left ||| bits
          | _ => left - (left &&& classes * 7) ||| bits
        match rest.drop letters.length with
        | ',' :: rest => changedMode mode fuel left 0 rest
        | rest => changedMode mode fuel left classes rest

def umask : Builtin := withLetters "S" fun l s =>
  let set (mask : Nat) : Except String State :=
    .ok (s.succeed.withWorld { s.world with mask := mask &&& 0o777 })
  let mask := s.world.mask
  match l.operands with
  | [] => .ok (s.succeed.print (if l.has 'S' then maskLetters mask else maskDigits mask))
  | word :: _ =>
    if (word.head?.map Char.isDigit).getD false then
      if word.all Escaped.isOctal then set (Escaped.octal word)
      else .error s!"Illegal number: {textOf word}"
    else
      let mode := 0o777 - mask
      match changedMode mode (word.length + 1) mode 0 word with
      | some mode => set (0o777 - (0o777 &&& mode))
      | none => .error s!"Illegal mode: {textOf word}"

end CommandShell.Script.Builtin
