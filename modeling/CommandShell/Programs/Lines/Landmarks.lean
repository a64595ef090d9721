import CommandShell.Programs.Amount
import CommandShell.Programs.Printing.Slot
import CommandShell.Programs.Folders.Targets
import CommandShell.Programs.Regex.Reader
import CommandShell.Programs.Regex.Captures

/-!
# Landmarks

The tool that cuts a text in front of given lines: lines of given numbers, or lines that an
expression is found in, with an offset from there. Each part becomes a file of its own, or is left
out. What has been made is taken away again where a landmark is missing.
-/
namespace CommandShell.Landmarks
open Bytes

/-- Where a part ends. -/
inductive Landmark
  /-- In front of a line; of the line so many times as far at the next repetition. -/
  | line (number : Nat)
  /-- At an offset from a line that matches; the part can be left out. -/
  | matching (expression : Regex) (offset : Int) (leftOut : Bool)

/-- How often a landmark is looked for again. -/
inductive Repeats
  | times (n : Nat)
  | always
  deriving DecidableEq

/-- A landmark as it was given, with its repetitions. -/
structure Pattern where
  text : String
  landmark : Landmark
  repeats : Repeats

/-! ## Patterns -/

/-- Reads an expression between two signs, and the offset behind them. -/
def readMatching (text : String) : Except String Landmark :=
  match text.toList with
  | [] => .error s!"{Naming.literal text}: invalid pattern"
  | sign :: cs =>
    let after := (cs.reverse.takeWhile (· ≠ sign)).reverse
    if after.length = cs.length then
      .error (text ++ ": closing delimiter '" ++ sign.toString ++ "' missing")
    else
      let inner := cs.take (cs.length - after.length - 1)
      match RegexReader.read ⟨false, false⟩ (byteChars (String.ofList inner)) with
      | .error fault =>
        .error s!"{Naming.literal text}: invalid regular expression: {fault.message}"
      | .ok e =>
        if after = [] then .ok (.matching e 0 (sign = '%'))
        else
          match Amount.whole? (String.ofList after) with
          | some n =>
            if n.natAbs ≤ Amount.largestSigned then .ok (.matching e n (sign = '%'))
            else .error s!"{Naming.literal text}: integer expected after delimiter"
          | none => .error s!"{Naming.literal text}: integer expected after delimiter"

/-- Reads a line number, which may not be below the one before. -/
def readLine (text : String) (last : Nat) : Except String Nat :=
  match Amount.within 0 Amount.largestSigned "" text with
  | .error _ => .error s!"{Naming.literal text}: invalid pattern"
  | .ok n =>
    if n = 0 then .error s!"{text}: line number must be greater than zero"
    else if n < last then
      .error s!"line number {Naming.literal text} is smaller than preceding line number, {last}"
    else .ok n

def readRepeats (text : String) : Except String Repeats :=
  let cs := text.toList
  if cs.getLast? ≠ some '\x7d' then
    .error (text ++ ": '\x7d' is required in repeat count")
  else
    match cs.drop 1 |>.dropLast with
    | ['*'] => .ok .always
    | inner =>
      match Amount.within 0 Amount.largestSigned "" (String.ofList inner) with
      | .ok n => .ok (.times n)
      | .error _ =>
        .error (text ++ ": integer required between '\x7b' and '\x7d'")

/-- Reads a landmark that follows one at some line, and the line of the last one behind it. -/
def readLandmark (last : Nat) (text : String) : Except String (Landmark × Nat) :=
  if text.toList.head? = some '/' ∨ text.toList.head? = some '%' then
    (readMatching text).map fun l => (l, last)
  else (readLine text last).map fun n => (.line n, n)

/-- Reads patterns, each with the count behind it if there is one. -/
def readPatterns (last : Nat) : List String → Except String (List Pattern)
  | [] => .ok []
  | [text] => (readLandmark last text).map fun l => [⟨text, l.1, .times 0⟩]
  | text :: count :: rest => do
    let (landmark, last) ← readLandmark last text
    if count.toList.head? = some '\x7b' then
      let repeats ← readRepeats count
      return ⟨text, landmark, repeats⟩ :: (← readPatterns last rest)
    else return ⟨text, landmark, .times 0⟩ :: (← readPatterns last (count :: rest))

/-! ## Parts -/

structure Style where
  name : Nat → String
  silent : Bool
  keeps : Bool
  withoutEmpty : Bool
  /-- Whether the lines at which the text is cut are left out. -/
  withoutLandmarks : Bool

/-- A text under way: the first line that is left, the line up to which has been looked, the lines
of the file that is open, the newest first, and how many files there are. -/
structure Run where
  progress : Progress
  lines : Array (List UInt8)
  first : Nat
  current : Nat
  file : Option (List (List UInt8))
  made : Nat

/-- How a step ends. -/
inductive Step
  | onward (r : Run)
  | ended (r : Run)
  | failed (r : Run)

namespace Run

def on (r : Run) (f : Progress → Progress) : Run := { r with progress := f r.progress }

/-- The line of a number, if it is there. -/
def line? (r : Run) (n : Nat) : Option (List UInt8) :=
  if n < 1 then none else r.lines[n - 1]?

def isEmpty (r : Run) : Bool := r.lines.size < r.first

def take (r : Run) : Option (List UInt8 × Run) :=
  (r.line? r.first).map fun line =>
    (line, { r with first := r.first + 1, current := max r.current r.first })

def save (line : List UInt8) (r : Run) : Run := { r with file := r.file.map (line :: ·) }

/-- Takes lines into the open file, or away, up to a line; says whether there were enough. -/
def takeTo (goal : Nat) (keeps : Bool) : Nat → Run → Bool × Run
  | 0, r => (true, r)
  | fuel + 1, r =>
    if goal ≤ r.first then (true, r)
    else
      match r.take with
      | none => (false, r)
      | some (line, r) => takeTo goal keeps fuel (if keeps then r.save line else r)

def fuel (r : Run) : Nat := r.lines.size + 1

def open_ (s : Style) (r : Run) : Step :=
  let name := s.name r.made
  match r.progress.world.save .replace name .empty with
  | .ok w => .onward { r.on (·.into w) with file := some [], made := r.made + 1 }
  | .error fault => .failed (r.on (·.fault (Naming.ifNeeded name) fault))

/-- Writes the open file and tells its size; an empty one can be taken away again. -/
def close (s : Style) (r : Run) : Run :=
  match r.file with
  | none => r
  | some held =>
    let name := s.name (r.made - 1)
    let bytes := join held.reverse
    let r := { r with file := none }
    if bytes.isEmpty ∧ s.withoutEmpty then
      match r.progress.world.locationOf? name with
      | some l => { r.on (fun p => p.into (p.world.discard l)) with made := r.made - 1 }
      | none => r
    else
      let r := match r.progress.world.save .replace name bytes with
        | .ok w => r.on (·.into w)
        | .error fault => r.on (·.fault (Naming.ifNeeded name) fault)
      if s.silent then r else r.on (·.print (toString bytes.size))

def takeRest (r : Run) : Run := (takeTo (r.lines.size + 1) true r.fuel r).2

end Run

def missing (p : Pattern) (what : String) (repetition : Nat) : String :=
  s!"{Naming.literal p.text}: {what}" ++
    if repetition = 0 then "" else s!" on repetition {repetition}"

def cutAtLine (s : Style) (p : Pattern) (number repetition : Nat) (r : Run) : Step :=
  match r.open_ s with
  | .onward r =>
    let fail (r : Run) : Step :=
      .failed (r.on (·.complain (missing p "line number out of range" repetition)))
    let none_ (r : Run) : Bool := (r.line? (r.current + 1)).isNone
    if s.withoutLandmarks ∧ none_ r then fail r
    else if r.isEmpty then .ended (r.on (·.complain "input disappeared"))
    else
      match Run.takeTo (number * (repetition + 1)) true r.fuel r with
      | (false, r) => fail r
      | (true, r) =>
        let r := r.close s
        let r := if s.withoutLandmarks then (r.take.map Prod.snd).getD r else r
        if !s.withoutLandmarks && none_ r then fail r else .onward r
  | other => other

def nextMatch (e : Regex) (r : Run) : Nat → Nat → Option Nat
  | 0, _ => none
  | fuel + 1, n =>
    match r.line? n with
    | none => none
    | some line =>
      let bare := if line.getLast? = some lineFeed then line.dropLast else line
      if e.occurs id bare then some n else nextMatch e r fuel (n + 1)

def cutAtMatch (s : Style) (p : Pattern) (e : Regex) (offset : Int) (leftOut : Bool)
    (repetition : Nat) (r : Run) : Step :=
  match if leftOut then .onward r else r.open_ s with
  | .onward r =>
    match nextMatch e r r.fuel (r.current + 1) with
    | none =>
      let r := if leftOut then { r with current := r.lines.size + 1 } else (r.takeRest).close s
      if p.repeats = .always then .ended r
      else .failed (r.on (·.complain (missing p "match not found" repetition)))
    | some n =>
      let goal := (n : Int) + offset
      let (_, r) := if offset < 0 then (true, r) else Run.takeTo n (!leftOut) r.fuel r
      let r := { r with current := n }
      let fail (r : Run) : Step :=
        .failed (r.on (·.complain s!"{Naming.literal p.text}: line number out of range"))
      if goal < r.first then fail r
      else
        match Run.takeTo goal.toNat (!leftOut) r.fuel r with
        | (false, r) => fail r
        | (true, r) =>
          let r := if leftOut then r else r.close s
          let r := if 0 < offset then { r with current := goal.toNat } else r
          .onward (if s.withoutLandmarks then (r.take.map Prod.snd).getD r else r)
  | other => other

/-- Cuts at a pattern and at its repetitions; `fuel` bounds their number. -/
def cutAt (s : Style) (p : Pattern) : Nat → Nat → Run → Step
  | 0, _, r => .onward r
  | fuel + 1, repetition, r =>
    let goesOn : Bool := match p.repeats with
      | .always => true
      | .times n => repetition ≤ n
    if !goesOn then .onward r
    else
      let step := match p.landmark with
        | .line n => cutAtLine s p n repetition r
        | .matching e offset leftOut => cutAtMatch s p e offset leftOut repetition r
      match step with
      | .onward r => cutAt s p fuel (repetition + 1) r
      | other => other

def cutAll (s : Style) : List Pattern → Run → Step
  | [], r =>
    match r.open_ s with
    | .onward r => .ended ((r.takeRest).close s)
    | other => other
  | p :: rest, r =>
    match cutAt s p (r.lines.size + 3) 0 r with
    | .onward r => cutAll s rest r
    | other => other

def withdraw (s : Style) (r : Run) : Run :=
  (List.range r.made).foldl (fun r n =>
    match r.progress.world.locationOf? (s.name n) with
    | some l => r.on fun p => p.into (p.world.discard l)
    | none => r) r

def run (s : Style) (patterns : List Pattern) (r : Run) : Progress :=
  match cutAll s patterns r with
  | .onward r => r.progress
  | .ended r => r.progress
  | .failed r =>
    let r := r.close s
    (if s.keeps then r else withdraw s r).progress

/-! ## Names -/

/-- A format of names: what stands in front of a number, the number's slot, and what is behind. -/
structure NameFormat where
  before : List Char
  slot : Slot
  after : List Char

/-- The ends of a text with doubled percent signs as one; none if there is a single one. -/
def plainText : List Char → Option (List Char)
  | [] => some []
  | '%' :: '%' :: rest => (plainText rest).map ('%' :: ·)
  | '%' :: _ => none
  | c :: rest => (plainText rest).map (c :: ·)

/-- Divides a text at its first percent sign that is not doubled. -/
def atDirective (before : List Char) : List Char → Option (List Char × List Char)
  | [] => none
  | '%' :: '%' :: rest => atDirective ('%' :: before) rest
  | '%' :: rest => some (before.reverse, rest)
  | c :: rest => atDirective (c :: before) rest

def NameFormat.read (text : String) : Except String NameFormat :=
  match atDirective [] text.toList with
  | none => .error "missing % conversion specification in suffix"
  | some (before, rest) =>
    let (slot, rest) := Slot.readFlags rest
    let width := rest.takeWhile Char.isDigit
    let rest := rest.drop width.length
    let (precision, rest) := match rest with
      | '.' :: more =>
        let digits := more.takeWhile Char.isDigit
        (some (readDigits digits), more.drop digits.length)
      | rest => (none, rest)
    match rest with
    | [] => .error "missing conversion specifier in suffix"
    | letter :: after =>
      if slot.signed ∨ slot.spaced ∨ ¬ ("diuoxX".toList.contains letter) then
        .error s!"invalid conversion specifier in suffix: {letter}"
      else if slot.alternate ∧ (letter = 'd' ∨ letter = 'i' ∨ letter = 'u') then
        .error "invalid flags in conversion specification"
      else
        match plainText after with
        | none => .error "too many % conversion specifications in suffix"
        | some after =>
          .ok ⟨before, { slot with width := min 4096 (readDigits width), precision, letter }, after⟩

def NameFormat.text (f : NameFormat) (n : Nat) : String :=
  let number := if f.slot.letter = 'd' ∨ f.slot.letter = 'i' then f.slot.signedNumber n
    else f.slot.unsignedNumber n
  String.ofList (f.before ++ number ++ f.after)

def styleOf (o : Options) : Except String Style := do
  let digits ← match o.value? "n" with
    | none => pure 2
    | some text =>
      match Amount.within 0 2147483647 "" text with
      | .ok n => pure n
      | .error _ => throw s!"invalid number: {Naming.literal text}"
  let format ← (o.value? "b").mapM NameFormat.read
  let stem := (o.value? "f").getD "xx"
  let name (n : Nat) : String :=
    stem ++ match format with
      | some f => f.text n
      | none =>
        let shown := toString n
        String.ofList (List.replicate (min 4096 digits - shown.length) '0') ++ shown
  return ⟨name, o.hasAny ["s", "q"], o.has "k", o.has "z", o.has "suppress-matched"⟩

def csplit : Tool :=
  .withOptions (.of "f:b:kn:sqz" ["digits= n", "quiet q", "silent s", "keep-files k",
    "elide-empty-files z", "prefix= f", "suffix-format= b", "suppress-matched"]) 1 fun o job w =>
    match styleOf o, o.operands with
    | .error message, _ => (Tool.failing job message 1, w)
    | .ok _, [] => (Tool.misused job "missing operand" 1, w)
    | .ok _, [one] => (Tool.misused job s!"missing operand after {Naming.literal one}" 1, w)
    | .ok s, name :: texts =>
      match Source.ofOperands w job.input [name], readPatterns 0 texts with
      | [source], patterns =>
        match source.contents, patterns with
        | .error .isFolder, .ok patterns =>
          let p := (Progress.start job w).complain "read error: Is a directory"
          let opens : Bool := match patterns.head?.map Pattern.landmark with
            | some (.matching _ _ leftOut) => !leftOut
            | _ => true
          (if opens && !s.silent && !s.withoutEmpty then p.print "0" else p).finish
        | .error .isFolder, .error message => (Tool.failing job message 1, w)
        | .error fault, _ =>
          (Tool.failing job s!"cannot open {Naming.always name} for reading: {fault.wording}" 1, w)
        | .ok _, .error message => (Tool.failing job message 1, w)
        | .ok bytes, .ok patterns =>
          let p : Progress := { Progress.start job w with unread := Tool.leftOver job [name] }
          (run s patterns ⟨p, (chunks bytes).toArray, 1, 0, none, 0⟩).finish
      | _, _ => (Tool.failing job "no input" 1, w)

end CommandShell.Landmarks
