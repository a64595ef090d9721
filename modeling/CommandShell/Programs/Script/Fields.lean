import CommandShell.Programs.Glob
import CommandShell.Programs.Script.State

/-!
# Fields

What a word stands for is cut into fields at the separators in what values gave it, and a field that
is a pattern stands for the names that it matches, if there are any.
-/
namespace CommandShell.Script

/-- A piece of what a word stands for. -/
inductive Piece
  /-- A character; whether it is quoted, and whether it can be a separator. -/
  | char (c : Char) (quoted cuttable : Bool)
  /-- Something stood here, even if it left no character. -/
  | keep
  /-- The border between two arguments; a firm one leaves empty fields. -/
  | border (firm : Bool)
  deriving DecidableEq, Repr

namespace Piece

def ofText (quoted cuttable : Bool) (cs : Chars) : List Piece :=
  cs.map fun c => .char c quoted cuttable

def ofArgs (quoted : Bool) (args : List Chars) : List Piece :=
  let one (a : Chars) : List Piece :=
    if quoted then .keep :: ofText true false a else ofText false true a
  List.intercalate [.border quoted] (args.map one)

def chars (ps : List Piece) : Chars :=
  ps.filterMap fun
    | .char c _ _ => some c
    | _ => none

/-- The characters of a pattern; a backslash that is not quoted quotes the character behind it. -/
def globChars : List Piece → List GlobChar
  | [] => []
  | .char '\\' false _ :: .char c _ _ :: rest => (c, true) :: globChars rest
  | .char c quoted _ :: rest => (c, quoted) :: globChars rest
  | _ :: rest => globChars rest

def pattern (ps : List Piece) : List GlobItem := Glob.read false (globChars ps)

end Piece

/-! ## Cutting -/

/-- How far cutting has come: the fields found, the newest first; the pieces of the present one, the
newest first, if it has begun; and behind a separator whether that was a blank. -/
structure Cutting where
  found : List (List Piece)
  present : Option (List Piece)
  behind : Option Bool

namespace Cutting

def isBlank (c : Char) : Bool := c == ' ' || c == '\t' || c == '\n'

def finish (c : Cutting) (behind : Option Bool) : Cutting :=
  ⟨(c.present.getD []).reverse :: c.found, none, behind⟩

/-- A separator: blanks at the start of a field and behind a separator do not count, nor does one
separator that is none behind blanks. -/
def separate (blank : Bool) (c : Cutting) : Cutting :=
  match c.present, c.behind with
  | some _, _ => c.finish (some blank)
  | none, some before =>
    if blank then c
    else if before then { c with behind := some false }
    else c.finish (some false)
  | none, none => if blank then c else c.finish (some false)

def step (separators : Chars) (c : Cutting) (p : Piece) : Cutting :=
  let add : Cutting := { c with present := some (p :: c.present.getD []), behind := none }
  match p with
  | .border true => c.finish none
  | .border false => c.separate true
  | .char d _ cuttable =>
    if cuttable && separators.contains d then c.separate (isBlank d) else add
  | .keep => add

end Cutting

def cutFields (separators : Chars) (ps : List Piece) : List (List Piece) :=
  let c := ps.foldl (Cutting.step separators) ⟨[], none, none⟩
  ((c.present.map List.reverse).toList ++ c.found).reverse

/-! ## Names -/

/-- The part of a pattern up to a slash, the slashes behind it, and the rest. -/
def firstPart (cs : List GlobChar) : List GlobChar × Chars × List GlobChar :=
  let part := cs.takeWhile (·.1 != '/')
  let rest := cs.drop part.length
  let slashes := rest.takeWhile (·.1 == '/')
  (part, slashes.map Prod.fst, rest.drop slashes.length)

/-- The names in a folder, with those of the folder itself and of the one above it. -/
def namesIn (w : World) (folder : Chars) : List Chars :=
  let text := if folder = [] then "." else textOf folder
  match w.follow text with
  | .ok (.folder place) =>
    if place.lost = 0 then ".".toList :: "..".toList :: (w.files.names place.path).map byteChars
    else []
  | _ => []

def precedes : Chars → Chars → Bool
  | [], _ => true
  | _ :: _, [] => false
  | a :: x, b :: y => if a = b then precedes x y else a < b

/-- Whether something stands at a path, which may be a link that leads nowhere. -/
def stands (w : World) (path : Chars) : Bool :=
  match w.sight (textOf path) with
  | .ok (.free _) => false
  | .ok _ => true
  | .error _ => false

/-- The names that continue a path and match a pattern; `fuel` bounds the number of its parts. -/
def matchesFrom (w : World) : Nat → Chars → List GlobChar → List Chars
  | 0, _, _ => []
  | fuel + 1, path, cs =>
    let (part, slashes, rest) := firstPart cs
    let items := Glob.read false part
    let names :=
      if Glob.isPattern items then
        let shown (name : Chars) : Bool := name.head? ≠ some '.' || items.head? = some (.one '.')
        ((namesIn w path).filter fun name => shown name && Glob.accepts items name).mergeSort
          (fun a b => precedes a b)
      else [part.map Prod.fst]
    if slashes = [] then (names.map (path ++ ·)).filter (stands w)
    else if rest = [] then (names.map (path ++ · ++ slashes)).filter (stands w)
    else names.flatMap fun name => matchesFrom w fuel (path ++ name ++ slashes) rest

/-- Whether some part of a path is a pattern; `fuel` bounds the number of its parts. -/
def anyPattern : Nat → List GlobChar → Bool
  | 0, _ => false
  | fuel + 1, cs =>
    let (part, slashes, rest) := firstPart cs
    Glob.isPattern (Glob.read false part) || (slashes ≠ [] && anyPattern fuel rest)

/-- What a field stands for: the names that it matches, or else itself. -/
def namesOf (s : State) (field : List Piece) : List Chars :=
  let plain := Piece.chars field
  let cs := Piece.globChars field
  if s.hasOption 'f' || !anyPattern (cs.length + 1) cs then [plain]
  else
    match matchesFrom s.world (cs.length + 1) [] cs with
    | [] => [plain]
    | names => names

/-! ## Home folders -/

/-- The folder of a user; the empty name is that of the one who runs the script. -/
def homeOf (s : State) (user : Chars) : Option Chars :=
  if user = [] then s.value? "HOME".toList
  else if user = "root".toList then some "/root".toList
  else none

/-- The text at the start of a word, where a tilde and a name stand for a home folder. In an
assignment the name may end at a colon. -/
def withHome (s : State) (inAssignment last : Bool) (cs : Chars) : List Piece :=
  match cs with
  | '~' :: rest =>
    let user := rest.takeWhile fun c => c != '/' && !(inAssignment && c == ':')
    let more := rest.drop user.length
    if more = [] ∧ ¬ last then Piece.ofText false false cs
    else
      match homeOf s user with
      | some home => .keep :: Piece.ofText true false home ++ Piece.ofText false false more
      | none => Piece.ofText false false cs
  | cs => Piece.ofText false false cs

/-- Text of an assignment, in which a home folder may stand behind each colon; `first` says that a
word starts here. -/
def withHomes (s : State) (first last : Bool) (cs : Chars) : List Piece :=
  let pieces := cs.splitOn ':'
  let count := pieces.length
  let shown := pieces.zipIdx.map fun (piece, i) =>
    if i = 0 ∧ ¬ first then Piece.ofText false false piece
    else withHome s true (last || i + 1 < count) piece
  List.intercalate [.char ':' false false] shown

/-! ## Cutting off -/

/-- A text without the stretch at one of its ends that matches. -/
def trimmed (atEnd longest : Bool) (items : List GlobItem) (cs : Chars) : Chars :=
  let lengths := List.range (cs.length + 1)
  let lengths := if longest then lengths.reverse else lengths
  let stretch (n : Nat) : Chars := if atEnd then cs.drop (cs.length - n) else cs.take n
  match lengths.find? fun n => Glob.accepts items (stretch n) with
  | none => cs
  | some n => if atEnd then cs.take (cs.length - n) else cs.drop n

end CommandShell.Script
