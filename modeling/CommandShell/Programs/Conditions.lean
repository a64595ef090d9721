import CommandShell.Programs.Amount
import CommandShell.Programs.Folders.Modes

/-!
# Conditions

Words that say something about texts, numbers and files, and whether it holds. Two grammars are in
use: that of the tool, which goes by the number of the words first, and that of scripts.
-/
namespace CommandShell.Conditions

/-! ## What can be said -/

def unaryLetters : List Char := "bcdefghknprstuwxzGLNOS".toList

def holdsOf (w : World) (letter : Char) (text : String) : Bool :=
  let special (bit : Nat) : Bool := match w.follow text with
    | .ok (.file l _) => w.modeAt l &&& bit != 0
    | .ok (.folder place) => w.modeAt place.path &&& bit != 0
    | _ => false
  match letter, w.follow text with
  | 'n', _ => text ≠ ""
  | 'z', _ => text = ""
  | 'h', _ => isLink
  | 'L', _ => isLink
  | 'u', _ => special 0o4000
  | 'g', _ => special 0o2000
  | 'k', _ => special 0o1000
  | 'e', .ok (.free _) => false
  | 'e', .ok _ => true
  | 'f', .ok (.file ..) => true
  | 'd', .ok (.folder _) => true
  | 'c', .ok (.device ..) => true
  | 's', .ok (.file _ f) => f.bytes.size ≠ 0
  | 'N', .ok (.file _ f) => f.bytes.size ≠ 0
  | 's', .ok (.folder _) => true
  | 'x', .ok (.file _ f) => f.runnable
  | 'x', .ok (.folder _) => true
  | 'r', .ok (.free _) => false
  | 'r', .ok _ => true
  | 'w', .ok (.free _) => false
  | 'w', .ok _ => true
  | 'O', .ok (.free _) => false
  | 'O', .ok _ => true
  | 'G', .ok (.free _) => false
  | 'G', .ok _ => true
  | _, _ => false
where
  isLink : Bool := match w.sight text with
    | .ok (.link ..) => true
    | _ => false

/-- Relations between two words. -/
inductive Relation
  | text (holds : String → String → Bool)
  | number (holds : Int → Int → Bool)
  | file (holds : World → String → String → Bool)

def exists_ (w : World) (text : String) : Bool := holdsOf w 'e' text

def sameFile (w : World) (a b : String) : Bool :=
  match w.follow a, w.follow b with
  | .ok (.file _ f), .ok (.file _ g) => f.identity == g.identity
  | .ok (.folder p), .ok (.folder q) => p == q
  | .ok (.device l _), .ok (.device m _) => l == m
  | _, _ => false

def relation? (word : String) : Option Relation :=
  match word with
  | "=" => some (.text (· == ·))
  | "!=" => some (.text (· != ·))
  | "-eq" => some (.number (· == ·))
  | "-ne" => some (.number (· != ·))
  | "-lt" => some (.number (· < ·))
  | "-le" => some (.number (· ≤ ·))
  | "-gt" => some (.number (· > ·))
  | "-ge" => some (.number (· ≥ ·))
  | "-ef" => some (.file sameFile)
  | "-nt" => some (.file fun w a b => exists_ w a && !exists_ w b)
  | "-ot" => some (.file fun w a b => exists_ w b && !exists_ w a)
  | _ => none

/-- The letter of a word that is a hyphen and a letter. -/
def letterOf? (word : String) : Option Char :=
  match word.toList with
  | ['-', c] => some c
  | _ => none

/-- A condition that was read, and the words behind it. -/
abbrev Reading := Except String (Bool × List String)

/-! ## The grammar of the tool -/

namespace Plain

def relation? (word : String) : Option Relation :=
  if word = "==" then some (.text (· == ·)) else Conditions.relation? word

def number (word : String) : Except String Int :=
  let trimmed := String.ofList ((word.toList.reverse.dropWhile Amount.isSpace).reverse)
  match Amount.whole? trimmed with
  | some n => .ok n
  | none => .error s!"invalid integer {Naming.always word}"

def compared (w : World) (r : Relation) (a b : String) : Except String Bool :=
  match r with
  | .text holds => .ok (holds a b)
  | .file holds => .ok (holds w a b)
  | .number holds => do return holds (← number a) (← number b)

def unary (w : World) : List String → Reading
  | word :: rest =>
    match letterOf? word, rest with
    | some c, [] => .error s!"missing argument after '-{c}'"
    | some 't', arg :: rest => do
      let _ ← number arg
      return (false, rest)
    | some c, arg :: rest =>
      if unaryLetters.contains c then .ok (holdsOf w c arg, rest)
      else .error s!"'-{c}': unary operator expected"
    | none, _ => .error s!"{Naming.always word}: unary operator expected"
  | [] => .error "missing argument"

def one : List String → Reading
  | word :: rest => .ok (word ≠ "", rest)
  | [] => .error "missing argument"

def negated (r : Reading) : Reading := r.map fun found => (!found.1, found.2)

def two (w : World) : List String → Reading
  | "!" :: rest => negated (one rest)
  | word :: rest =>
    if (letterOf? word).isSome then unary w (word :: rest)
    else .error s!"missing argument after {Naming.always (rest.headD word)}"
  | [] => .error "missing argument"

mutual

def any (w : World) : Nat → List String → Reading
  | 0, _ => .error "too deep"
  | fuel + 1, words => do
    let (first, rest) ← all w fuel words
    match rest with
    | "-o" :: rest =>
      let (second, rest) ← any w fuel rest
      return (first || second, rest)
    | rest => return (first, rest)

def all (w : World) : Nat → List String → Reading
  | 0, _ => .error "too deep"
  | fuel + 1, words => do
    let (first, rest) ← term w fuel words
    match rest with
    | "-a" :: rest =>
      let (second, rest) ← all w fuel rest
      return (first && second, rest)
    | rest => return (first, rest)

def term (w : World) : Nat → List String → Reading
  | 0, _ => .error "too deep"
  | fuel + 1, words =>
    match words with
    | [] => .error "missing argument"
    | "!" :: rest => negated (term w fuel rest)
    | "(" :: rest => do
      let inner := (rest.drop 1).takeWhile (· ≠ ")")
      let count := if inner.length + 1 < 4 then inner.length + 1 else rest.length
      let (found, rest) ← counted w fuel count rest
      match rest with
      | ")" :: rest => return (found, rest)
      | [] => throw "')' expected"
      | other :: _ => throw s!"')' expected, found {Naming.always other}"
    | "-l" :: a :: op :: b :: rest =>
      match relation? op with
      | some (.number holds) => do
        return (holds a.utf8ByteSize (← number b), rest)
      | _ => pairOrLess w ("-l" :: a :: op :: b :: rest)
    | words => pairOrLess w words

/-- A relation between two words, a letter with its word, or a word alone. -/
def pairOrLess (w : World) : List String → Reading
  | a :: op :: b :: rest =>
    match relation? op with
    | some r => (compared w r a b).map fun found => (found, rest)
    | none =>
      if (letterOf? a).isSome then unary w (a :: op :: b :: rest)
      else one (a :: op :: b :: rest)
  | a :: rest => if (letterOf? a).isSome then unary w (a :: rest) else one (a :: rest)
  | [] => .error "missing argument"

def counted (w : World) : Nat → Nat → List String → Reading
  | 0, _, _ => .error "too deep"
  | fuel + 1, count, words =>
    match count, words with
    | 1, words => one words
    | 2, words => two w words
    | 3, a :: op :: b :: rest =>
      match relation? op with
      | some r => (compared w r a b).map fun found => (found, rest)
      | none =>
        if a = "!" then negated (two w (op :: b :: rest))
        else if a = "(" ∧ b = ")" then .ok (op ≠ "", rest)
        else if op = "-a" ∨ op = "-o" then any w fuel words
        else .error s!"{Naming.always op}: binary operator expected"
    | 4, "!" :: rest => negated (counted w fuel 3 rest)
    | 4, ["(", a, b, ")"] => two w [a, b]
    | _, words => any w fuel words

end

def holds (w : World) (words : List String) : Except String Bool :=
  if words = [] then .ok false
  else
    match counted w (4 * words.length + 8) words.length words with
    | .error message => .error message
    | .ok (found, []) => .ok found
    | .ok (_, extra :: _) => .error s!"extra argument {Naming.always extra}"

end Plain

/-! ## The grammar of scripts -/

namespace Scripted

def relation? (word : String) : Option Relation :=
  match word with
  | "<" => some (.text fun a b => a < b)
  | ">" => some (.text fun a b => b < a)
  | "-nt" => some (.file fun _ _ _ => false)
  | "-ot" => some (.file fun _ _ _ => false)
  | word => Conditions.relation? word

def isUnary (word : String) : Bool :=
  ((letterOf? word).map unaryLetters.contains).getD false && word ≠ "-N"

def number (word : String) : Except String Int :=
  let trimmed := String.ofList ((word.toList.reverse.dropWhile Amount.isSpace).reverse)
  match Amount.whole? trimmed with
  | some n =>
    if -(Nat.pow 2 63) ≤ n ∧ n < Nat.pow 2 63 then .ok n else .error s!"Illegal number: {word}"
  | none => .error s!"Illegal number: {word}"

def compared (w : World) (r : Relation) (a b : String) : Except String Bool :=
  match r with
  | .text holds => .ok (holds a b)
  | .file holds => .ok (holds w a b)
  | .number holds => do return holds (← number a) (← number b)

/-- What the first of some words is. -/
inductive Mark
  | nothing
  | operand
  | unary
  | binary
  | not
  | both
  | either
  | opening
  | closing
  deriving DecidableEq

/-- A letter is an operand where no word is behind it, or a relation between two. -/
def letterIsOperand : List String → Bool
  | [] => true
  | [_] => false
  | next :: _ => (relation? next).isSome

def markOf : List String → Mark
  | [] => .nothing
  | word :: rest =>
    if isUnary word then (if letterIsOperand rest then .operand else .unary)
    else if (relation? word).isSome then .binary
    else if word = "!" then .not
    else if word = "-a" then .both
    else if word = "-o" then .either
    else if word = "(" then (if rest = [] then .operand else .opening)
    else if word = ")" then .closing
    else .operand

mutual

def any (w : World) : Nat → List String → Reading
  | 0, _ => .error "too deep"
  | fuel + 1, words => do
    let (first, rest) ← all w fuel words
    if markOf rest = .either then
      let (second, rest) ← any w fuel (rest.drop 1)
      return (first || second, rest)
    else return (first, rest)

def all (w : World) : Nat → List String → Reading
  | 0, _ => .error "too deep"
  | fuel + 1, words => do
    let (first, rest) ← negation w fuel words
    if markOf rest = .both then
      let (second, rest) ← all w fuel (rest.drop 1)
      return (first && second, rest)
    else return (first, rest)

def negation (w : World) : Nat → List String → Reading
  | 0, _ => .error "too deep"
  | fuel + 1, words =>
    if markOf words = .not then (negation w fuel (words.drop 1)).map fun found =>
      (!found.1, found.2)
    else primary w fuel words

def primary (w : World) : Nat → List String → Reading
  | 0, _ => .error "too deep"
  | fuel + 1, words =>
    match markOf words, words with
    | .nothing, _ => .ok (false, [])
    | .opening, _ :: rest =>
      if markOf rest = .closing then .ok (false, rest.drop 1)
      else do
        let (found, rest) ← any w fuel rest
        match rest with
        | ")" :: rest => return (found, rest)
        | _ => throw "closing paren expected"
    | .unary, op :: arg :: rest =>
      match letterOf? op with
      | some 't' => do
        let _ ← number arg
        return (false, rest)
      | some c => .ok (holdsOf w c arg, rest)
      | none => .ok (false, rest)
    | .unary, [op] => .error s!"{op}: argument expected"
    | _, a :: op :: rest =>
      match relation? op, rest with
      | some r, b :: rest => (compared w r a b).map fun found => (found, rest)
      | some _, [] => .error s!"{op}: argument expected"
      | none, _ => .ok (a ≠ "", op :: rest)
    | _, [a] => .ok (a ≠ "", [])
    | _, [] => .ok (false, [])

end

/-- Whether words hold, once those that make a whole of them have been looked at; `fuel` bounds the
steps. -/
def holdsWithin (w : World) : Nat → Bool → List String → Except String Bool
  | 0, _, _ => .error "too deep"
  | fuel + 1, flipped, words =>
    let full (words : List String) : Except String Bool := do
      let (found, rest) ← any w (4 * words.length + 8) words
      if rest = [] then return found != flipped
      else
        let last := words.getD (words.length - rest.length - 1) ""
        throw s!"{last}: unexpected operator"
    match words with
    | [] => .ok flipped
    | [a, op, b] =>
      match relation? op with
      | some r => (compared w r a b).map (· != flipped)
      | none =>
        if op = "-a" then .ok ((a ≠ "" ∧ b ≠ "") != flipped)
        else if op = "-o" then .ok ((a ≠ "" ∨ b ≠ "") != flipped)
        else if a = "(" ∧ b = ")" then full [op]
        else if a = "!" then holdsWithin w fuel (!flipped) [op, b]
        else full words
    | [a, b, c, d] =>
      if a = "(" ∧ d = ")" then full [b, c]
      else if a = "!" then holdsWithin w fuel (!flipped) [b, c, d]
      else full words
    | words => full words

def holds (w : World) (words : List String) : Except String Bool :=
  holdsWithin w (words.length + 2) false words

end Scripted

/-! ## The tools -/

def unbracketed (words : List String) : Option (List String) :=
  if words.getLast? = some "]" then some words.dropLast else none

/-- The end of a condition; `name` and `reason` are shown where it is malformed. -/
def ended (name : String) (unread : ByteArray) (found : Except String Bool) : ToolEnd :=
  match found with
  | .ok true => .of [] .empty 0 unread
  | .ok false => .of [] .empty 1 unread
  | .error message => .of [s!"{name}: {message}"] .empty 2 unread

def test : Tool := fun job w => (ended job.name job.input.bytes (Plain.holds w job.args), w)

/-- The form of `test` that is closed by a bracket. -/
def bracket : Tool := fun job w =>
  match unbracketed job.args with
  | none => (.of [s!"{job.name}: missing ']'"] .empty 2 job.input.bytes, w)
  | some words => (ended job.name job.input.bytes (Plain.holds w words), w)

end CommandShell.Conditions
