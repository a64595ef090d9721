import CommandShell.Programs.Lines.Columns
import CommandShell.Programs.Number.Real

/-!
# Numbers with units

The tool that turns numbers with a letter for a power of a thousand, or of 1024, into plain ones and
back. It computes as a machine does that keeps ten bytes of a number, and rounds away from zero
where nothing else is asked for.
-/
namespace CommandShell.Units
open Bytes

/-- Which letters stand for powers, and of what. -/
inductive Scale
  | none
  | auto
  | thousands
  | binary
  /-- Powers of 1024, whose letters are followed by a small one. -/
  | marked
  deriving DecidableEq

def Scale.base : Scale → Nat
  | binary => 1024
  | marked => 1024
  | _ => 1000

inductive Rounding
  | up
  | down
  | fromZero
  | towardsZero
  | nearest
  deriving DecidableEq

/-- What happens where a number cannot be read or written. -/
inductive Handling
  | abort
  | fail
  | warn
  | ignore
  deriving DecidableEq

/-- How numbers are converted and laid out. -/
structure Conversion where
  source : Scale
  target : Scale
  sourceUnit : Nat
  targetUnit : Nat
  rounding : Rounding
  handling : Handling
  padding : Nat
  left : Bool
  /-- The width up to which zeros are put in front. -/
  zeros : Nat
  places : Option Nat
  ending : List Char
  before : List Char
  after : List Char
  delimiter : Option Char
  chosen : Nat → Bool

/-! ## Arithmetic -/

/-- A number times a quotient, as the machine keeps it. -/
def scaledBy (num den : Nat) (x : Real) : Real :=
  (match x with
    | .finite negative a b => Real.finite negative (a * num) (b * den)
    | x => x).rounded .long

/-- A number divided by a base as long as it is not below it, and how often; `fuel` bounds that. -/
def reduced (base : Nat) : Nat → Real → Real × Nat
  | 0, x => (x, 0)
  | fuel + 1, x =>
    match x with
    | .finite _ num den =>
      if base * den ≤ num then
        let (y, n) := reduced base fuel (scaledBy 1 base x)
        (y, n + 1)
      else (x, 0)
    | x => (x, 0)

/-- More steps than any number that can be read needs. -/
def steps : Nat := 128

def Rounding.apply (r : Rounding) : Real → Real
  | .finite negative num den =>
    let low := num / den
    let high := if num % den = 0 then low else low + 1
    let whole := match r with
      | up => if negative then low else high
      | down => if negative then high else low
      | fromZero => high
      | towardsZero => low
      | nearest => (2 * num + den) / (2 * den)
    (Real.finite (negative && whole ≠ 0) whole 1).rounded .long
  | x => x

def roundedAt (r : Rounding) (places : Nat) (x : Real) : Real :=
  scaledBy 1 (Nat.pow 10 places) (r.apply (scaledBy (Nat.pow 10 places) 1 x))

/-- Whether a number is below a bound, its sign aside. -/
def isBelow (bound : Nat) : Real → Bool
  | .finite _ num den => num < bound * den
  | _ => false

def isZero : Real → Bool
  | .finite _ num _ => num = 0
  | _ => false

/-! ## Reading -/

/-- Why a text is no number that can be converted. -/
inductive Fault
  | tooLarge
  | malformed
  | forbiddenLetter
  | badLetter
  | markMissing
  /-- Something comes behind the number. -/
  | trailing (rest : List Char)
  | unprintable
  deriving DecidableEq

def Fault.message (text : String) : Fault → String
  | tooLarge => s!"value too large to be converted: {Naming.literal text}"
  | malformed => s!"invalid number: {Naming.literal text}"
  | forbiddenLetter => s!"rejecting suffix in input: {Naming.literal text} (consider using --from)"
  | badLetter => s!"invalid suffix in input: {Naming.literal text}"
  | markMissing => s!"missing 'i' suffix in input: {Naming.literal text} (e.g Ki/Mi/Gi)"
  | trailing rest =>
    s!"invalid suffix in input {Naming.literal text}: {Naming.literal (String.ofList rest)}"
  | unprintable => s!"value too large to be printed: '{text}' (consider using --to)"

/-- The most digits, zeros in front aside, that can be read. -/
def mostDigits : Nat := 27

/-- The most digits that can be written without a unit. -/
def mostPlain : Nat := 18

/-- Digits with a sign in front if there is one, and the rest. -/
def readWhole (cs : List Char) : Except Fault (Bool × Real × List Char × List Char) :=
  let (negative, cs) := match cs with
    | '-' :: rest => (true, rest)
    | rest => (false, rest)
  let digits := cs.takeWhile Char.isDigit
  let rest := cs.drop digits.length
  if mostDigits < (digits.dropWhile (· = '0')).length then .error .tooLarge
  else if digits = [] ∧ rest.head? ≠ some '.' then .error .malformed
  else
    let value := digits.foldl (fun x c =>
      ((scaledBy 10 1 x).add (.finite false (c.toNat - 48) 1)).rounded .long) (.finite false 0 1)
    .ok (negative, value, digits, rest)

/-- A number with the places behind its point, and the rest. -/
def readPlain (cs : List Char) : Except Fault (Real × Nat × List Char) := do
  let (negative, whole, _, rest) ← readWhole cs
  let signed (x : Real) : Real := if negative then x.negate else x
  match rest with
  | '.' :: rest =>
    let (minus, fraction, digits, rest) ← readWhole rest
    if minus then throw .malformed
    let part := scaledBy 1 (Nat.pow 10 digits.length) fraction
    return (signed ((whole.add part).rounded .long), digits.length, rest)
  | rest => return (signed whole, 0, rest)

def letters : List Char := "KMGTPEZY".toList

def isBlank (c : Char) : Bool := c = ' ' || c = '\t'

/-- A number with its unit, and how many places it has. -/
def readNumber (scale : Scale) (cs : List Char) : Except Fault (Real × Nat) := do
  let (value, places, rest) ← readPlain cs
  let finish (value : Real) (places : Nat) (rest : List Char) : Except Fault (Real × Nat) :=
    if rest = [] then .ok (value, places) else .error (.trailing rest)
  match rest, rest.dropWhile isBlank with
  | [], _ => if scale = .marked then throw .markMissing else return (value, places)
  | _, [] => throw (if scale = .none then .forbiddenLetter else .badLetter)
  | _, letter :: rest =>
    if ¬ letters.contains letter then throw .badLetter
    else if scale = .none then throw .forbiddenLetter
    else
      let power := letters.findIdx (· == letter) + 1
      let times (base : Nat) : Real := scaledBy (Nat.pow base power) 1 value
      match scale, rest with
      | .auto, 'i' :: rest => finish (times 1024) 0 rest
      | .marked, 'i' :: rest => finish (times 1024) 0 rest
      | .marked, _ => throw .markMissing
      | scale, rest => finish (times scale.base) 0 rest

/-! ## Writing -/

/-- A number with so many places, and zeros in front up to a width. -/
def digitsText (zeros places : Nat) (x : Real) (unit : List Char) : List Char :=
  match x with
  | .finite negative num den =>
    let digits := Real.fixed false places num den
    let sign := if negative then ['-'] else []
    sign ++ List.replicate (zeros - sign.length - digits.length) '0' ++ digits ++ unit
  | _ => []

def Conversion.text (c : Conversion) (x : Real) (places : Nat) : List Char :=
  if c.target = .none then digitsText c.zeros places (roundedAt c.rounding places x) []
  else
    let base := c.target.base
    let (y, power) := reduced base steps x
    let kept := match c.places with
      | some n => min (3 * power) n
      | none => if isBelow 10 y then 1 else 0
    let y := roundedAt c.rounding kept y
    let (y, power) := if isBelow base y then (y, power) else (scaledBy 1 base y, power + 1)
    let shown := c.places.getD (if ¬ isZero y ∧ isBelow 10 y ∧ 0 < power then 1 else 0)
    let unit := if power = 0 then [] else
      (letters[power - 1]?.map fun l => [l]).getD "(error)".toList
    digitsText c.zeros shown y unit ++ if c.target = .marked ∧ 0 < power then ['i'] else []

/-- Whether a number has few enough digits to be written. -/
def Conversion.fits (c : Conversion) (x : Real) (places : Nat) : Bool :=
  let (_, power) := reduced 10 steps x
  (c.target ≠ .none || power + places ≤ mostPlain) && power < mostDigits

/-- A field that is converted, or why it cannot be; the text that stands for it in that case is the
field without its ending. `later` says whether it is not the first of its line. -/
def Conversion.field (c : Conversion) (later : Bool) (text : List Char) :
    Except (Fault × List Char) (List Char) :=
  let bare := if c.ending ≠ [] ∧ c.ending.length < text.length ∧ c.ending.isSuffixOf text then
      text.take (text.length - c.ending.length)
    else text
  let number := bare.dropWhile isBlank
  let padding := if c.padding = 0 ∧ c.delimiter = none then
      (if number.length < bare.length ∨ later then bare.length else 0)
    else c.padding
  match readNumber c.source number with
  | .error fault => .error (fault, bare)
  | .ok (value, places) =>
    let value := if c.sourceUnit ≠ 1 ∨ c.targetUnit ≠ 1 then
        scaledBy 1 c.targetUnit (scaledBy c.sourceUnit 1 value)
      else value
    let places := c.places.getD places
    if !c.fits value places then .error (.unprintable, bare)
    else
      let body := c.text value places ++ c.ending
      let gap := List.replicate (padding - body.length) ' '
      .ok (c.before ++ (if c.left then body ++ gap else gap ++ body) ++ c.after)

/-! ## Lines -/

/-- The fields of a line. Where no delimiter is given, blanks stand in front of a field and end the
one before; the one behind which a field ends belongs to neither. -/
def fieldsOf (delimiter : Option Char) (line : List Char) : List (List Char) :=
  match delimiter with
  | some d => line.splitOn d
  | none => go (line.length + 1) line
where
  isGap (c : Char) : Bool := isBlank c || c = '\n'
  go : Nat → List Char → List (List Char)
    | 0, _ => []
    | fuel + 1, line =>
      let blanks := line.takeWhile isGap
      let word := (line.drop blanks.length).takeWhile (!isGap ·)
      match line.drop (blanks.length + word.length) with
      | [] => [blanks ++ word]
      | _ :: rest => (blanks ++ word) :: go fuel rest

/-- What has been written, and what has been said about faults. -/
structure Outcome where
  out : List Char
  reports : List String
  faulty : Bool
  /-- Nothing more is converted. -/
  ended : Bool

/-- Converts the fields of a line, which have been counted up to `n`. -/
def Conversion.fields (c : Conversion) : Nat → List (List Char) → Outcome → Outcome
  | _, [], s => s
  | n, text :: rest, s =>
    if s.ended then s
    else
      let between := if rest = [] then [] else [c.delimiter.getD ' ']
      let s :=
        if !c.chosen (n + 1) then { s with out := s.out ++ text ++ between }
        else
          match c.field (0 < n) text with
          | .ok shown => { s with out := s.out ++ shown ++ between }
          | .error (fault, shown) =>
            let message := fault.message (String.ofList (shown.dropWhile isBlank))
            let reports := if c.handling = .ignore then s.reports else s.reports ++ [message]
            if c.handling = .abort then ⟨s.out, reports, true, true⟩
            else ⟨s.out ++ shown ++ between, reports, true, false⟩
      c.fields (n + 1) rest s

def Conversion.lines (c : Conversion) (ending : Char) : List (List Char × Bool) → Outcome → Outcome
  | [], s => s
  | (line, ends) :: rest, s =>
    if s.ended then s
    else
      let s' := c.fields 0 (fieldsOf c.delimiter line) { s with out := [] }
      let written := if ends && !s'.ended then s'.out ++ [ending] else s'.out
      let rest := c.lines ending rest { s' with out := [] }
      { rest with out := written ++ rest.out }

/-! ## Options -/

def wordOf (words : List String) (option text : String) : Except String String :=
  match Options.chosen? words text with
  | some word => .ok word
  | none => .error s!"invalid argument {Naming.literal text} for '--{option}'"

def scaleOf (option : String) (words : List String) : Option String → Except String Scale
  | none => .ok .none
  | some text => (wordOf words option text).map fun word =>
    match word with
    | "auto" => .auto
    | "si" => .thousands
    | "iec" => .binary
    | "iec-i" => .marked
    | _ => .none

/-- The size of a unit, which may have a letter for a power. -/
def unitOf (value : Option String) : Except String Nat :=
  match value with
  | none => .ok 1
  | some text =>
    let cs := text.toList
    let wrong : Except String Nat := .error s!"invalid unit size: {Naming.literal text}"
    let read := match cs.getLast? with
      | none => none
      | some c =>
        if c.isDigit then Amount.read? "" text
        else if c = 'i' ∧ 2 ≤ cs.length ∧ ¬ (cs[cs.length - 2]?.any Char.isDigit) then
          Amount.read? "KMGTPEZY" (String.ofList cs.dropLast)
        else Amount.read? "KMGTPEZY0" (text ++ "B")
    match read with
    | some n => if n = 0 ∨ Amount.largest < n then wrong else .ok n
    | none => wrong

/-- What a format says: its ends, the layout of the number between them. -/
structure Layout where
  before : List Char
  after : List Char
  zeros : Bool
  width : Int
  places : Option Nat
  grouped : Bool

/-- How many characters stand in front of the directive, two percent signs counted as one. -/
def leadOf : List Char → Nat → Option (Nat × List Char)
  | [], _ => none
  | '%' :: '%' :: rest, n => leadOf rest (n + 1)
  | '%' :: rest, n => some (n, rest)
  | _ :: rest, n => leadOf rest (n + 1)

/-- Flags in front of a width: whether zeros are asked for, whether groups are, and the rest. -/
def flagsOf : List Char → Bool × Bool × List Char
  | ' ' :: rest => flagsOf rest
  | '\'' :: rest =>
    let (zeros, _, rest) := flagsOf rest
    (zeros, true, rest)
  | '0' :: rest =>
    let (_, grouped, rest) := flagsOf rest
    (true, grouped, rest)
  | rest => (false, false, rest)

/-- Whether a text has a percent sign that is not doubled. -/
def hasDirective : List Char → Bool
  | '%' :: '%' :: rest => hasDirective rest
  | '%' :: _ => true
  | _ :: rest => hasDirective rest
  | [] => false

/-- A whole number at the front of a text, blanks before it aside, and the rest. -/
def integerOf (cs : List Char) : Option Int × List Char :=
  let body := cs.dropWhile Real.isSpace
  let (negative, digits) := match body with
    | '-' :: rest => (true, rest)
    | '+' :: rest => (false, rest)
    | rest => (false, rest)
  let run := digits.takeWhile Char.isDigit
  if run = [] then (none, cs)
  else
    let n : Int := readDigits run
    (some (if negative then -n else n), digits.drop run.length)

def layoutOf (text : String) : Except String Layout :=
  let shown := Naming.literal text
  let cs := (bytesOf text).map Naming.charOf
  match leadOf cs 0 with
  | none => .error s!"format {shown} has no % directive"
  | some (lead, rest) =>
    let (zeros, grouped, rest) := flagsOf rest
    let (width, rest) := integerOf rest
    if (width.getD 0).natAbs > Amount.largestSigned then
      .error s!"invalid format {shown} (width overflow)"
    else
      let finish (places : Option Nat) (rest : List Char) : Except String Layout :=
        match rest with
        | 'f' :: rest =>
          if hasDirective rest then .error s!"format {shown} has too many % directives"
          else .ok ⟨cs.take lead, rest, zeros, width.getD 0, places, grouped⟩
        | _ => .error (s!"invalid format {shown}," ++ " directive must be %[0]['][-][N][.][N]f")
      match rest with
      | [] => .error s!"format {shown} ends in %"
      | '.' :: rest =>
        let wrong := s!"invalid precision in format {shown}"
        match integerOf rest with
        | (some n, more) =>
          if n < 0 ∨ n > Amount.largestSigned ∨ rest.head?.any fun c => isBlank c || c = '+' then
            .error wrong
          else finish (some n.toNat) more
        | (none, more) => if rest.head?.any fun c => isBlank c || c = '+' then .error wrong
          else finish (some 0) more
      | rest => finish none rest

def chosenOf (value : Option String) : Except String (Nat → Bool) :=
  match value with
  | none => .ok (· == 1)
  | some "-" => .ok fun _ => true
  | some text => (Columns.Stretch.readAll .fields text).map fun stretches n =>
    stretches.any (·.holds n)

def table : OptionTable :=
  .of "d:z" ["from=", "from-unit=", "to=", "to-unit=", "round=", "padding=", "suffix=", "grouping",
    "delimiter= d", "field=", "debug", "header[=]", "format=", "invalid=", "zero-terminated z"]

def widest : Nat := 1048576

def conversionOf (o : Options) : Except String Conversion := do
  let source ← scaleOf "from" ["none", "auto", "si", "iec", "iec-i"] (o.value? "from")
  let target ← scaleOf "to" ["none", "si", "iec", "iec-i"] (o.value? "to")
  let rounding ← (o.value? "round").mapM fun text =>
    (wordOf ["up", "down", "from-zero", "towards-zero", "nearest"] "round" text).map fun word =>
      match word with
      | "up" => Rounding.up
      | "down" => .down
      | "towards-zero" => .towardsZero
      | "nearest" => .nearest
      | _ => .fromZero
  let handling ← (o.value? "invalid").mapM fun text =>
    (wordOf ["abort", "fail", "warn", "ignore"] "invalid" text).map fun word =>
      match word with
      | "fail" => Handling.fail
      | "warn" => .warn
      | "ignore" => .ignore
      | _ => .abort
  let padding ← (o.value? "padding").mapM fun text =>
    match Amount.whole? text with
    | some n =>
      if n = 0 ∨ n.natAbs > Amount.largestSigned then
        throw s!"invalid padding value {Naming.literal text}"
      else pure n
    | none => throw s!"invalid padding value {Naming.literal text}"
  let delimiter ← (o.value? "d").mapM fun text =>
    match bytesOf text with
    | [] => pure '\x00'
    | [b] => pure (Naming.charOf b)
    | _ => throw "the delimiter must be a single character"
  if 1 < (o.values "field").length then throw "multiple field specifications"
  let chosen ← chosenOf (o.value? "field")
  let sourceUnit ← unitOf (o.value? "from-unit")
  let targetUnit ← unitOf (o.value? "to-unit")
  let layout ← (o.value? "format").mapM layoutOf
  if layout.isSome ∧ o.has "grouping" then throw "--grouping cannot be combined with --format"
  let grouped := o.has "grouping" || layout.any Layout.grouped
  if grouped ∧ target ≠ .none then throw "grouping cannot be combined with --to"
  let width := (layout.map Layout.width).getD 0
  let zeros := layout.any Layout.zeros && 0 < width
  let padding := if width ≠ 0 ∧ ¬ zeros then width else padding.getD 0
  return {
    source, target, sourceUnit, targetUnit
    rounding := rounding.getD .fromZero
    handling := handling.getD .abort
    padding := min widest padding.natAbs
    left := padding < 0
    zeros := if zeros then min widest width.natAbs else 0
    places := layout.bind Layout.places
    ending := (bytesOf ((o.value? "suffix").getD "")).map Naming.charOf
    before := ((layout.map Layout.before).getD [])
    after := ((layout.map Layout.after).getD [])
    delimiter, chosen }

/-- How many lines stand in front of those with numbers. -/
def headerOf (o : Options) : Except String Nat :=
  match o.last? ["header"] with
  | none => .ok 0
  | some (_, none) => .ok 1
  | some (_, some text) =>
    match Amount.within 1 Amount.largest "" text with
    | .ok n => .ok n
    | .error _ => .error s!"invalid header value {Naming.literal text}"

/-- The lines of an input, each with whether it has an end. -/
def linesOf (ending : Char) (bytes : ByteArray) : List (List Char × Bool) :=
  let pieces := (bytes.toList.map Naming.charOf).splitOn ending
  (pieces.dropLast.map fun line => (line, true)) ++
    match pieces.getLast? with
    | some [] => []
    | some line => [(line, false)]
    | none => []

def numfmt : Tool := .withOptions table 1 fun o job w =>
  match conversionOf o, headerOf o with
  | .error message, _ => (Tool.failing job message 1, w)
  | _, .error message => (Tool.failing job message 1, w)
  | .ok c, .ok header =>
    let ending := if o.has "z" then '\x00' else '\n'
    let (head, lines, unread) := match o.operands with
      | [] =>
        let all := linesOf ending job.input.bytes
        (all.take header, all.drop header, ByteArray.empty)
      | words =>
        let rows := words.map fun word => ((bytesOf word).map Naming.charOf, true)
        ([], rows, job.input.bytes)
    let copied := head.flatMap fun (line, ends) => if ends then line ++ [ending] else line
    let s := c.lines ending lines ⟨[], [], false, false⟩
    let bytes := (copied ++ s.out).map fun ch => UInt8.ofNat ch.toNat
    let reports := s.reports.map fun r => s!"{job.name}: {r}"
    let fails := s.faulty && (c.handling = .abort || c.handling = .fail)
    (.of reports bytes.toByteArray (if fails then 2 else 0) unread, w)

end CommandShell.Units
