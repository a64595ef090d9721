import CommandShell.Programs.Naming
import CommandShell.Programs.Options
import CommandShell.Programs.Printing.Escapes
import CommandShell.Programs.Printing.Slot

/-!
# Sequences of numbers

Numbers from one to another in even steps, each with as many places as the numbers they were made
from, or in a slot of a format. A number that is past the end only by a rounding is shown too.
-/
namespace CommandShell.Sequence

/-- A number that was given: its value, and the width and the places of its text. -/
structure Given where
  value : Real
  width : Int
  /-- None where the text does not say how many. -/
  places : Option Int

def one : Given := ⟨.ofInt 1, 1, some 0⟩

/-- The length of what a decimal text shows, and its places, with its exponent applied. -/
def shapeOf (cs : List Char) : Int × Option Int :=
  let whole := cs.takeWhile fun c => c != '.' && c != 'e' && c != 'E'
  let hasPoint := cs.contains '.'
  let behind := (cs.dropWhile (· != '.')).drop 1
  let fraction := behind.takeWhile fun c => c != 'e' && c != 'E'
  let fractionLength : Int := fraction.length
  let exponentText := (cs.dropWhile fun c => c != 'e' && c != 'E').drop 1
  let hasExponent := cs.any fun c => c = 'e' ∨ c = 'E'
  let places : Int := if hasPoint then fractionLength else 0
  let lastDigit := (whole.getLast?.map Char.isDigit).getD false
  let width : Int := cs.length +
    (if hasPoint then (if fractionLength = 0 then -1 else if lastDigit then 0 else 1) else 0)
  if !hasExponent then (width, some places)
  else
    let exponent := (Amount.whole? (String.ofList exponentText)).getD 0
    let newPlaces := if exponent < 0 then places - exponent else places - min places exponent
    let width := width - (exponentText.length + 1 : Nat)
    let width :=
      if exponent < 0 then
        width + (if hasPoint then (if fractionLength = 0 then 1 else 0) else 1) - exponent
      else
        width - (if hasPoint ∧ newPlaces = 0 ∧ 0 < fractionLength then 1 else 0) +
          (exponent - min fractionLength exponent)
    (width, some newPlaces)

/-- Reads a number that was given; none if it is none. -/
def Given.read? (text : String) : Option Given :=
  match Real.read? text.toList with
  | some (.nan _, []) => none
  | some (x, []) =>
    let cs := text.toList.dropWhile fun c => Amount.isSpace c || c == '+'
    let isHex : Bool := cs.any fun c => c = 'x' ∨ c = 'X'
    match x with
    | .finite .. =>
      if isHex then
        some ⟨x, 0, if cs.contains '.' ∨ cs.contains 'p' then none else some 0⟩
      else
        let (width, places) := shapeOf cs
        some ⟨x, width, places⟩
    | x => some ⟨x, 0, if cs.contains '.' then none else some 0⟩
  | _ => none

/-! ## Formats -/

/-- A format with one slot for a number. -/
structure Format where
  before : List Char
  slot : Slot
  behind : List Char

def Format.write (f : Format) (x : Real) : List Char :=
  f.before ++ f.slot.real .long x ++ f.behind

/-- Text up to a slot, with two percent signs for one. -/
def plainText : List Char → List Char × List Char
  | [] => ([], [])
  | '%' :: '%' :: rest => (('%' :: (plainText rest).1), (plainText rest).2)
  | '%' :: rest => ([], '%' :: rest)
  | c :: rest => ((c :: (plainText rest).1), (plainText rest).2)

/-- Reads a format, or says what is wrong with it. -/
def Format.read (text : String) : Except String Format :=
  let shown := Naming.literal text
  let (before, rest) := plainText (byteChars text)
  match rest with
  | [] => .error s!"format {shown} has no % directive"
  | _ :: rest =>
    let (slot, rest) := Slot.readFlags rest
    let width := rest.takeWhile Char.isDigit
    let rest := rest.drop width.length
    let (precision, rest) := match rest with
      | '.' :: rest =>
        let digits := rest.takeWhile Char.isDigit
        (some (readDigits digits), rest.drop digits.length)
      | rest => (none, rest)
    let rest := if rest.head? = some 'L' then rest.drop 1 else rest
    match rest with
    | [] => .error s!"format {shown} ends in %"
    | letter :: rest =>
      if !"efgaEFGA".contains letter then
        .error s!"format {shown} has unknown %{letter} directive"
      else
        let (behind, more) := plainText rest
        if more ≠ [] then .error s!"format {shown} has too many % directives"
        else .ok ⟨before, { slot with width := readDigits width, precision, letter }, behind⟩

def formatOf (wide : Bool) (first step last : Given) : Format :=
  let general : Format := ⟨[], .plain 'g', []⟩
  match first.places, step.places, last.places with
  | some a, some b, some c =>
    let places := max a b
    let slot : Slot := { Slot.plain 'f' with precision := some places.toNat }
    if !wide then ⟨[], slot, []⟩
    else
      let firstWidth := first.width + (places - a) + (if a = 0 ∧ places ≠ 0 then 1 else 0)
      let lastWidth := last.width + (places - c) - (if c ≠ 0 ∧ places = 0 then 1 else 0) +
        (if c = 0 ∧ places ≠ 0 then 1 else 0)
      ⟨[], { slot with zeros := true, width := (max firstWidth lastWidth).toNat }, []⟩
  | _, _, _ => general

/-! ## Numbers -/

/-- How many numbers of a sequence without an end are made. -/
def plenty : Nat := 200000

def isPast (step last x : Real) : Bool :=
  if step.isNegative then Real.less x last else Real.less last x

def term (first step : Real) (n : Nat) : Real :=
  (first.add ((step.times n).rounded .long)).rounded .long

/-- The texts of a sequence from its term of number `n` on; `fuel` bounds their number. -/
def texts (f : Format) (first step last : Real) : Nat → Nat → List Char → List (List Char)
  | 0, _, _ => []
  | fuel + 1, n, before =>
    let x := term first step n
    let shown := f.write x
    if !isPast step last x then shown :: texts f first step last fuel (n + 1) shown
    else
      let body := f.slot.real .long x
      let reads := match Real.read? body with
        | some (y, []) => Real.same (y.rounded .long) last
        | _ => false
      if reads && shown != before then [shown] else []

/-- The number of terms that are sure to be enough. -/
def bound (first step last : Real) : Nat :=
  match first, step, last with
  | .finite n a b, .finite m c d, .finite k e g =>
    let signed (negative : Bool) (x : Nat) : Int := if negative then -(x : Int) else x
    let distance := (signed k e * b - signed n a * g).natAbs
    let steps := distance * d / max 1 (b * g * max c 1)
    let _ := m
    min (steps + 3) (100 * plenty)
  | _, _, _ => plenty

def sequence (f : Format) (first step last : Real) : List (List Char) :=
  let first := first.rounded .long
  let step := step.rounded .long
  let last := last.rounded .long
  if isPast step last first then []
  else
    let shown := f.write first
    shown :: texts f first step last (bound first step last) 1 shown

def wholeSequence (first step last : Nat) : List (List Char) :=
  let count := if last < first then 0 else (last - first) / step + 1
  (List.range (min count (100 * plenty))).map fun i => (toString (first + step * i)).toList

def smallStep : Nat := 200

/-- The first number, the step and the last number, where all of them are whole and written in
digits alone. -/
def whole? (words : List String) : Option (Nat × Nat × Nat) :=
  if words.all fun word => Amount.isDigits word.toList then
    match words.map fun word => readDigits word.toList with
    | [last] => some (1, 1, last)
    | [first, last] => some (first, 1, last)
    | [first, step, last] =>
      if 0 < step ∧ step ≤ smallStep then some (first, step, last) else none
    | _ => none
  else none

/-! ## The tool -/

/-- The options in front of the numbers; a number may start with a hyphen. -/
def splitWords : List String → List String × List String
  | [] => ([], [])
  | word :: rest =>
    match word.toList with
    | '-' :: c :: _ =>
      if c = '.' ∨ c.isDigit then ([], word :: rest)
      else if word = "--" then ([], rest)
      else if word = "-s" ∨ word = "-f" ∨ word = "--separator" ∨ word = "--format" then
        match rest with
        | value :: rest => (word :: value :: (splitWords rest).1, (splitWords rest).2)
        | [] => ([word], [])
      else (word :: (splitWords rest).1, (splitWords rest).2)
    | _ => ([], word :: rest)

def table : OptionTable := .of "f:s:w" ["equal-width w", "format= f", "separator= s"]

def seq : Tool := fun job w =>
  let (flags, numbers) := splitWords job.args
  match Options.read table false flags with
  | .error fault => (Tool.misused job fault.message 1, w)
  | .ok o =>
    let format := (o.value? "f").map Format.read
    match numbers, numbers.find? fun n => (Given.read? n).isNone, numbers.filterMap Given.read? with
    | [], _, _ => (Tool.misused job "missing operand" 1, w)
    | _ :: _ :: _ :: extra :: _, _, _ =>
      (Tool.misused job s!"extra operand {Naming.literal extra}" 1, w)
    | _, some bad, _ =>
      (Tool.misused job s!"invalid floating point argument: {Naming.literal bad}" 1, w)
    | words, none, given =>
      let (first, step, last) := match given with
        | [last] => (one, one, last)
        | [first, last] => (first, one, last)
        | [first, step, last] => (first, step, last)
        | _ => (one, one, one)
      if Real.same step.value (.ofInt 0) then
        let shown := Naming.literal (words.getD 1 "")
        (Tool.misused job s!"invalid Zero increment value: {shown}" 1, w)
      else if o.has "w" ∧ o.has "f" then
        (Tool.misused job "format string may not be specified when printing equal width strings" 1,
          w)
      else
        match format with
        | some (.error message) => (.of [s!"{job.name}: {message}"] .empty 1 job.input.bytes, w)
        | format =>
          let f := match format with
            | some (.ok f) => f
            | _ => formatOf (o.has "w") first step last
          let separator := byteChars ((o.value? "s").getD "\n")
          let plain : Bool := separator.length = 1 && !o.hasAny ["w", "f"]
          let found := match if plain then whole? words else none with
            | some (first, step, last) => wholeSequence first step last
            | none => sequence f first.value step.value last.value
          let output := if found = [] then .empty
            else charBytes (separator.intercalate found ++ ['\n'])
          (.of [] output 0 job.input.bytes, w)

end CommandShell.Sequence
