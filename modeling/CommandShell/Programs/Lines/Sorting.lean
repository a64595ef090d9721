import CommandShell.Programs.Amount
import CommandShell.Programs.Number.Real
import CommandShell.Programs.Number.Version
import CommandShell.Programs.Sources

/-!
# The order of lines

Lines are ordered by keys, which are stretches of fields, and each key is compared in a way of its
own: by bytes, by numbers of several forms, by months or by versions.
-/
namespace CommandShell.Sorting
open Bytes

/-- How a key is compared. -/
inductive Manner
  | bytes
  | number
  | general
  | human
  | month
  | version
  deriving DecidableEq, Repr

/-- The letters that go with a key. -/
structure KeyFlags where
  manner : Manner
  ignoresUnprinted : Bool
  dictionary : Bool
  folds : Bool
  reverse : Bool
  skipsStart : Bool
  skipsEnd : Bool
  /-- The letters that have asked for a manner. -/
  asked : List Char
  deriving DecidableEq, Repr

def KeyFlags.usual : KeyFlags := ⟨.bytes, false, false, false, false, false, false, []⟩

/-- A position in a line: so many fields and then so many bytes further. -/
structure Position where
  field : Nat
  offset : Nat
  deriving DecidableEq, Repr

/-- A key; one without a first position is the whole line, one without a last goes to its end. -/
structure Key where
  first : Option Position
  last : Option Position
  flags : KeyFlags
  deriving DecidableEq, Repr

/-! ## Fields -/

def isBlank (b : UInt8) : Bool := b = 32 || b = 9 || b = 10

/-- A line without its first field. With a separator, the separator goes too, except behind the last
field that is skipped if `keep` says so. -/
def skipField (separator : Option UInt8) (line : List UInt8) : List UInt8 :=
  match separator with
  | some s => (line.dropWhile (· ≠ s)).drop 1
  | none => (line.dropWhile isBlank).dropWhile (!isBlank ·)

def skipFields (separator : Option UInt8) : Nat → List UInt8 → List UInt8
  | 0, line => line
  | n + 1, line => if line = [] then [] else skipFields separator n (skipField separator line)

def fromPosition (separator : Option UInt8) (skips : Bool) (p : Position) (line : List UInt8) :
    List UInt8 :=
  let rest := skipFields separator p.field line
  (if skips then rest.dropWhile isBlank else rest).drop p.offset

/-- How much of a line is left behind a key: its last position is that of a field, which counts as a
whole if the offset is zero. -/
def behind (separator : Option UInt8) (skips : Bool) (p : Position) (line : List UInt8) :
    List UInt8 :=
  if p.offset = 0 then
    let rest := skipFields separator p.field line
    match separator with
    | some s => rest.dropWhile (· ≠ s)
    | none => skipField none rest
  else fromPosition separator skips p line

/-- The stretch of a line that a key stands for. -/
def Key.stretch (separator : Option UInt8) (k : Key) (line : List UInt8) : List UInt8 :=
  let start := match k.first with
    | none => if k.flags.skipsStart then line.dropWhile isBlank else line
    | some p => fromPosition separator k.flags.skipsStart p line
  match k.last with
  | none => start
  | some p => start.take (start.length - (behind separator k.flags.skipsEnd p line).length)

/-! ## Comparing -/

def charsOf (bytes : List UInt8) : List Char := bytes.map fun b => Char.ofNat b.toNat

/-- A decimal number: its sign, its digits in front of the point and those behind it. -/
structure Decimal where
  negative : Bool
  whole : Nat
  fraction : List Char

def Decimal.ofBytes (bytes : List UInt8) : Decimal × List Char :=
  let cs := charsOf (bytes.dropWhile isBlank)
  let (negative, cs) := match cs with
    | '-' :: rest => (true, rest)
    | rest => (false, rest)
  let whole := cs.takeWhile Char.isDigit
  let rest := cs.drop whole.length
  let (fraction, rest) := match rest with
    | '.' :: rest =>
      let run := rest.takeWhile Char.isDigit
      (run, rest.drop run.length)
    | rest => ([], rest)
  (⟨negative, readDigits whole, fraction⟩, rest)

def Decimal.isZero (d : Decimal) : Bool := d.whole = 0 && d.fraction.all (· == '0')

/-- The number as a multiple of the last of so many places. -/
def Decimal.scaled (places : Nat) (d : Decimal) : Int :=
  let digits := (d.fraction ++ List.replicate places '0').take places
  let n := d.whole * Nat.pow 10 places + readDigits digits
  if d.negative then -(n : Int) else n

def Decimal.order (a b : Decimal) : Ordering :=
  let places := max a.fraction.length b.fraction.length
  compare (a.scaled places) (b.scaled places)

def orderNumbers (a b : List UInt8) : Ordering :=
  (Decimal.ofBytes a).1.order (Decimal.ofBytes b).1

def unitRank (d : Decimal) (rest : List Char) : Int :=
  if d.isZero then 0
  else
    let n : Int := match rest with
      | 'k' :: _ => 1
      | 'K' :: _ => 1
      | 'M' :: _ => 2
      | 'G' :: _ => 3
      | 'T' :: _ => 4
      | 'P' :: _ => 5
      | 'E' :: _ => 6
      | 'Z' :: _ => 7
      | 'Y' :: _ => 8
      | _ => 0
    if d.negative then -n else n

def orderHuman (a b : List UInt8) : Ordering :=
  let (x, restX) := Decimal.ofBytes a
  let (y, restY) := Decimal.ofBytes b
  (compare (unitRank x restX) (unitRank y restY)).then (x.order y)

/-- What is no number comes first, then what says that it is none, then the numbers. -/
def orderGeneral (a b : List UInt8) : Ordering :=
  match Real.read? (charsOf a), Real.read? (charsOf b) with
  | none, none => .eq
  | none, some _ => .lt
  | some _, none => .gt
  | some (x, _), some (y, _) =>
    match x.rounded .long, y.rounded .long with
    | .nan _, .nan _ => .eq
    | .nan _, _ => .lt
    | _, .nan _ => .gt
    | x, y => (Real.order? x y).getD .eq

def monthNames : List String :=
  ["JAN", "FEB", "MAR", "APR", "MAY", "JUN", "JUL", "AUG", "SEP", "OCT", "NOV", "DEC"]

/-- The number of the month at the front; zero if there is none. -/
def monthOf (bytes : List UInt8) : Nat :=
  let name := String.ofList (charsOf (((bytes.dropWhile isBlank).take 3).map toUpper))
  match monthNames.findIdx? (· = name) with
  | some n => n + 1
  | none => 0

def orderBytes (a b : List UInt8) : Ordering :=
  if a = b then .eq else if precedes a b then .lt else .gt

def isAlnum (b : UInt8) : Bool := Version.isDigit b || Version.isAlpha b

/-- The bytes of a key that count, in the form in which they count. -/
def KeyFlags.counted (f : KeyFlags) (bytes : List UInt8) : List UInt8 :=
  let kept := if f.dictionary then bytes.filter fun b => isAlnum b || isBlank b
    else if f.ignoresUnprinted then bytes.filter fun b => 32 ≤ b && b ≤ 126
    else bytes
  if f.folds then kept.map toUpper else kept

def KeyFlags.order (f : KeyFlags) (a b : List UInt8) : Ordering :=
  let found := match f.manner with
    | .bytes => orderBytes (f.counted a) (f.counted b)
    | .number => orderNumbers a b
    | .general => orderGeneral a b
    | .human => orderHuman a b
    | .month => compare (monthOf a) (monthOf b)
    | .version => Version.order (f.counted a) (f.counted b)
  if f.reverse then found.swap else found

/-- An order of lines. -/
structure LineOrder where
  separator : Option UInt8
  keys : List Key
  reverse : Bool
  /-- Whether lines that agree in their keys are left as they are. -/
  keysOnly : Bool

def LineOrder.byKeys (o : LineOrder) (a b : List UInt8) : Ordering :=
  o.keys.foldl (fun found k => found.then
    (k.flags.order (k.stretch o.separator a) (k.stretch o.separator b))) .eq

def LineOrder.order (o : LineOrder) (a b : List UInt8) : Ordering :=
  let last (_ : Unit) : Ordering :=
    let found := orderBytes a b
    if o.reverse then found.swap else found
  if o.keys = [] then last ()
  else
    match o.byKeys a b with
    | .eq => if o.keysOnly then .eq else last ()
    | found => found

def LineOrder.same (o : LineOrder) (a b : List UInt8) : Bool :=
  if o.keys = [] then a == b else o.byKeys a b == .eq

def LineOrder.sort (o : LineOrder) (lines : List (List UInt8)) : List (List UInt8) :=
  lines.mergeSort fun a b => o.order a b != .gt

def LineOrder.distinct (o : LineOrder) (lines : List (List UInt8)) : List (List UInt8) :=
  (lines.splitBy o.same).filterMap List.head?

/-- Puts lists together by taking the least of their first lines each time. -/
def LineOrder.merge (o : LineOrder) (lists : List (List (List UInt8))) : List (List UInt8) :=
  let rec go (fuel : Nat) (lists : List (List (List UInt8))) : List (List UInt8) :=
    match fuel with
    | 0 => []
    | fuel + 1 =>
      let lists := lists.filter (· ≠ [])
      let better (best : Option (List UInt8 × Nat)) (e : List (List UInt8) × Nat) :=
        match best, e.1.head? with
        | none, some line => some (line, e.2)
        | some (line, i), some other =>
          if o.order line other = .gt then some (other, e.2) else some (line, i)
        | best, none => best
      match lists.zipIdx.foldl better none with
      | none => []
      | some (line, i) =>
        line :: go fuel (lists.zipIdx.map fun e => if e.2 = i then e.1.drop 1 else e.1)
  go (lists.flatten.length + 1) lists

/-- The first line that is out of order, with its number. -/
def LineOrder.disorder? (o : LineOrder) (strict : Bool) :
    Nat → List (List UInt8) → Option (List UInt8 × Nat)
  | n, a :: b :: rest =>
    let found := o.order a b
    if found = .gt ∨ (strict ∧ found = .eq) then some (b, n + 1)
    else o.disorder? strict (n + 1) (b :: rest)
  | _, _ => none

/-! ## Reading keys -/

/-- Which ends of a key the letter for blanks is about. -/
inductive Side
  | start
  | stop
  | both

def KeyFlags.compared (f : KeyFlags) (letter : Char) (manner : Manner) : KeyFlags :=
  { f with manner, asked := if f.asked.contains letter then f.asked else f.asked ++ [letter] }

/-- The letters that are said to be incompatible, if they are: numbers and months are compared in
one way only, and as they are. -/
def KeyFlags.clash? (f : KeyFlags) : Option String :=
  let rest : Bool :=
    f.dictionary || f.ignoresUnprinted || f.asked.contains 'V' || f.asked.contains 'R'
  let ways := (f.asked.filter "ghMn".toList.contains).length + (if rest then 1 else 0)
  let has (c : Char) : Bool := match c with
    | 'd' => f.dictionary
    | 'f' => f.folds
    | 'i' => f.ignoresUnprinted && !f.dictionary
    | c => f.asked.contains c
  if ways ≤ 1 then none else some (String.ofList ("dfghiMnRV".toList.filter has))

/-- Takes one letter into account; none if it is no letter of a key. -/
def KeyFlags.with? (side : Side) (f : KeyFlags) (c : Char) : Option KeyFlags :=
  match c, side with
  | 'b', .start => some { f with skipsStart := true }
  | 'b', .stop => some { f with skipsEnd := true }
  | 'b', .both => some { f with skipsStart := true, skipsEnd := true }
  | 'd', _ => some { f with dictionary := true }
  | 'f', _ => some { f with folds := true }
  | 'g', _ => some (f.compared c .general)
  | 'h', _ => some (f.compared c .human)
  | 'i', _ => some { f with ignoresUnprinted := true }
  | 'M', _ => some (f.compared c .month)
  | 'n', _ => some (f.compared c .number)
  | 'r', _ => some { f with reverse := true }
  | 'V', _ => some (f.compared c .version)
  | 'R', _ => some (f.compared c f.manner)
  | _, _ => none

def readFlags (side : Side) (f : KeyFlags) : List Char → KeyFlags × List Char
  | [] => (f, [])
  | c :: rest =>
    match f.with? side c with
    | some f => readFlags side f rest
    | none => (f, c :: rest)

/-- Reads a field and an offset, both counted from one; an offset that is missing is none. -/
def readPosition (cs : List Char) : Option (Nat × Option Nat × List Char) :=
  let field := cs.takeWhile Char.isDigit
  let rest := cs.drop field.length
  if field = [] then none
  else
    match rest with
    | '.' :: rest =>
      let offset := rest.takeWhile Char.isDigit
      if offset = [] then none
      else some (readDigits field, some (readDigits offset), rest.drop offset.length)
    | rest => some (readDigits field, none, rest)

/-- Reads a key: a first position and letters, and if there is a comma a last one and letters. -/
def readKey (text : String) : Except String Key :=
  let bad (what : String) : Except String Key :=
    .error s!"{what}: invalid field specification {Naming.literal text}"
  let noNumber (place : String) (rest : List Char) : Except String Key :=
    let shown := Naming.literal (String.ofList rest)
    .error s!"invalid number at {place}: invalid count at start of {shown}"
  let stray : Except String Key := bad "stray character in field spec"
  match readPosition text.toList with
  | none => noNumber "field start" text.toList
  | some (0, _, _) => bad "field number is zero"
  | some (_, some 0, _) => bad "character offset is zero"
  | some (field, offset, rest) =>
    let first : Position := ⟨field - 1, (offset.getD 1) - 1⟩
    let first := if first = ⟨0, 0⟩ then none else some first
    let (flags, rest) := readFlags .start .usual rest
    match rest with
    | [] => .ok ⟨first, none, flags⟩
    | ',' :: rest =>
      match readPosition rest with
      | none => noNumber "field start" rest
      | some (0, _, _) => bad "field number is zero"
      | some (field, offset, rest) =>
        let last : Position := ⟨field - 1, offset.getD 0⟩
        match readFlags .stop flags rest with
        | (flags, []) => .ok ⟨first, some last, flags⟩
        | _ => stray
    | _ => stray

/-! ## The tool -/

def table : OptionTable :=
  .of "bcCdfghik:mMno:rRsS:t:T:uVy:z" ["ignore-leading-blanks b", "check[=] check",
    "compress-program=", "debug", "dictionary-order d", "ignore-case f", "files0-from=",
    "general-numeric-sort g", "ignore-nonprinting i", "key= k", "merge m", "month-sort M",
    "numeric-sort n", "human-numeric-sort h", "version-sort V", "random-sort R",
    "random-source=", "sort=", "output= o", "reverse r", "stable s", "batch-size=",
    "buffer-size= S", "field-separator= t", "temporary-directory= T", "unique u",
    "zero-terminated z", "parallel="]

/-- The manners by their names, with their letters. -/
def manners : List (String × Char) :=
  [("general-numeric", 'g'), ("human-numeric", 'h'), ("month", 'M'), ("numeric", 'n'),
    ("random", 'R'), ("version", 'V')]

/-- The letter of a manner by its name or by the beginning of it. -/
def mannerOf? (name : String) : Option Char :=
  (Options.chosen? (manners.map Prod.fst) name).bind fun found => manners.lookup found

def globalFlags (o : Options) : KeyFlags :=
  o.given.foldl (fun f g =>
    match g.1.toList, g.1, g.2 with
    | [c], _, none => (f.with? .both c).getD f
    | _, "sort", some name => ((mannerOf? name).bind (f.with? .both ·)).getD f
    | _, _, _ => f) .usual

/-- A key without letters of its own takes those that are given outside of keys. -/
def keysOf (o : Options) : Except String (List Key) := do
  let shared := globalFlags o
  let keys ← (o.values "k").mapM readKey
  if keys = [] then
    return if { shared with reverse := false } = KeyFlags.usual ∧ ¬ shared.reverse then []
      else [⟨none, none, shared⟩]
  else return keys.map fun k => if k.flags = .usual then { k with flags := shared } else k

def separatorOf (o : Options) : Except String (Option UInt8) := do
  let found ← (o.values "t").mapM fun text =>
    match bytesOf text with
    | [] => throw "empty tab"
    | [b] => pure b
    | _ => if text = "\\0" then pure 0 else throw s!"multi-character tab {Naming.literal text}"
  match found with
  | [] => return none
  | b :: rest => if rest.all (· == b) then return some b else throw "incompatible tabs"

/-- How the lines are checked instead of being sorted, if they are. -/
inductive Check
  | aloud
  | quietly
  deriving DecidableEq

def checkOf (o : Options) : Option Check :=
  match o.last? ["c", "C", "check"] with
  | none => none
  | some ("C", _) => some .quietly
  | some ("check", some "quiet") => some .quietly
  | some ("check", some "silent") => some .quietly
  | some _ => some .aloud

/-- The complaint about a size of memory that cannot be had. -/
def memoryFault? (text : String) : Option String :=
  let digits := text.toList.takeWhile Char.isDigit
  let shown := Naming.literal text
  let n := readDigits digits
  let bytes? : Option Nat := match text.toList.drop digits.length with
    | [] => some (1024 * n)
    | ['b'] => some n
    | ['%'] => some 0
    | [c] =>
      if "gGkKmMtTPEZY".toList.contains c then
        (Amount.power? c).map fun k => Nat.pow 1024 k * n
      else none
    | _ => none
  if digits = [] then some s!"invalid -S argument {shown}"
  else
    match bytes? with
    | none => some s!"invalid suffix in -S argument {shown}"
    | some bytes =>
      if Amount.largest < bytes then some s!"-S argument {shown} too large" else none

/-- The complaint about a number that says how sorting is to be done. -/
def effortFault? (o : Options) : Option String :=
  let parallel? (text : String) : Option String := match Amount.read? "" text with
    | none => some s!"invalid --parallel argument {Naming.literal text}"
    | some n => if n = 0 then some "number in parallel must be nonzero" else none
  let batch? (text : String) : Option String := match Amount.read? "" text with
    | none => some s!"invalid --batch-size argument {Naming.literal text}"
    | some n => if n < 2 then some s!"invalid --batch-size argument {Naming.literal text}" else none
  o.given.findSome? fun g =>
    match g.1, g.2 with
    | "S", some text => memoryFault? text
    | "parallel", some text => parallel? text
    | "batch-size", some text => batch? text
    | _, _ => none

def incompatible (letters : String) : String := s!"options '-{letters}' are incompatible"

def clash? (o : Options) (keys : List Key) : Option String :=
  let outputs := (o.values "o").eraseDups
  let loud := o.given.any fun g => g.1 = "c" ∨ (g.1 = "check" ∧ checkOf ⟨[g], []⟩ = some .aloud)
  let quiet := o.given.any fun g => checkOf ⟨[g], []⟩ = some .quietly
  if loud ∧ quiet then some (incompatible "cC")
  else if 1 < outputs.length then some "multiple output files specified"
  else
    match keys.findSome? fun k => k.flags.clash? with
    | some letters => some (incompatible letters)
    | none =>
      if outputs = [] ∨ 1 < o.operands.length then none
      else if loud then some (incompatible "co")
      else if quiet then some (incompatible "Co")
      else none

def orderOf (o : Options) : Except String LineOrder := do
  let keys ← keysOf o
  let separator ← separatorOf o
  match (effortFault? o).or (clash? o keys) with
  | some fault => throw fault
  | none => pure ()
  let shared := globalFlags o
  return ⟨separator, keys, shared.reverse, o.hasAny ["u", "s"]⟩

/-- Swaps the byte that ends lines with the null byte. -/
def swapped (zero : Bool) (bytes : ByteArray) : ByteArray :=
  if zero then mapBytes (fun b => if b = 0 then lineFeed else if b = lineFeed then 0 else b) bytes
  else bytes

/-- The lines of bytes that end with a line feed or with a null byte. -/
def linesOf (zero : Bool) (bytes : ByteArray) : List (List UInt8) :=
  if zero then (lines (swapped true bytes)).map (·.map fun b =>
    if b = 0 then lineFeed else if b = lineFeed then 0 else b)
  else lines bytes

def linesWith (zero : Bool) (all : List (List UInt8)) : ByteArray :=
  if zero then join (all.map (· ++ [0])) else unlines all

def unreadable (tool : String) (s : Source) (fault : FileFault) : String :=
  if s.kind = .folder then s!"{tool}: read failed: {Naming.ifNeeded s.name}: {fault.wording}"
  else s!"{tool}: cannot read: {Naming.ifNeeded s.name}: {fault.wording}"

/-- A position counted from zero as one that is counted from one. -/
def shifted (stop : Bool) (cs : List Char) : String :=
  match readPosition cs with
  | none => String.ofList cs
  | some (field, offset, more) =>
    let text := match stop, offset with
      | false, none => s!"{field + 1}"
      | false, some n => s!"{field + 1}.{n + 1}"
      | true, none => s!"{field}"
      | true, some 0 => s!"{field}"
      | true, some n => s!"{field + 1}.{n}"
    text ++ String.ofList more

def signed? (sign : Char) (word : String) : Option (List Char) :=
  match word.toList with
  | c :: d :: cs => if c = sign ∧ d.isDigit then some (d :: cs) else none
  | _ => none

/-- Reads the old way to give a key: a plus sign and a position counted from zero, and perhaps a
hyphen and another one. A word that has been used is skipped. -/
def oldKeys (skip : Bool) : List String → List String
  | [] => []
  | word :: rest =>
    if skip then oldKeys false rest
    else if word = "--" then word :: rest
    else
      match signed? '+' word, rest.head?.bind (signed? '-') with
      | none, _ => word :: oldKeys false rest
      | some first, none => ("-k" ++ shifted false first) :: oldKeys false rest
      | some first, some last =>
        ("-k" ++ shifted false first ++ "," ++ shifted true last) :: oldKeys true rest

/-- Writes the sorted lines to the output or to the file that is asked for. -/
def deliver (o : Options) (output unread : ByteArray) : Tool := fun job w =>
  match o.value? "o" with
  | none => (.of [] output 0 unread, w)
  | some "/dev/stdout" => (.of [] output 0 unread, w)
  | some name =>
    match w.write .replace (.ofString name) output with
    | (.ok (), w) => (.of [] .empty 0 unread, w)
    | (.error (.system e), w) =>
      (.of [s!"{job.name}: open failed: {Naming.ifNeeded name}: {e.reason}"] .empty 2 unread, w)
    | (.error _, w) => (.of [] .empty 2 unread, w)

def sortWith (o : Options) : Tool := fun job w =>
  let wrongManner := (o.values "sort").find? fun name => (mannerOf? name).isNone
  match wrongManner, orderOf o, Source.listed o job.input w with
  | some name, _, _ =>
    (Tool.misused job s!"invalid argument {Naming.always name} for '--sort'" 1, w)
  | none, .error complaint, _ => (Tool.failing job complaint 2, w)
  | none, .ok _, .error complaint => (Tool.failing job complaint 2, w)
  | none, .ok order, .ok operands =>
    let zero := o.has "z"
    let sources := Source.ofOperands w job.input operands
    let unread := Tool.leftOver job operands
    match sources.find? (!·.contents.isOk), checkOf o with
    | some s, _ =>
      let fault := match s.contents with
        | .error fault => fault
        | .ok _ => .notFound
      (.of [unreadable job.name s fault] .empty 2 unread, w)
    | none, some check =>
      match sources with
      | [s] =>
        match order.disorder? (o.has "u") 1 (linesOf zero (s.contents.toOption.getD .empty)) with
        | none => (.of [] .empty 0 unread, w)
        | some (line, n) =>
          let text := String.fromUTF8? line.toByteArray
          let said := s!"{job.name}: {s.name}:{n}: disorder: {text.getD (String.ofList [])}"
          (.of (if check = .aloud then [said] else []) .empty 1 unread, w)
      | _ =>
        let extra := Naming.always (operands.getD 1 "")
        (Tool.failing job s!"extra operand {extra} not allowed with -c" 2, w)
    | none, none =>
      let parts := (Source.found sources).map fun e => linesOf zero e.2
      let ordered := if o.has "m" then order.merge parts else order.sort parts.flatten
      let kept := if o.has "u" then order.distinct ordered else ordered
      deliver o (linesWith zero kept) unread job w

def sort : Tool := fun job w =>
  Tool.withOptions table 2 sortWith { job with args := oldKeys false job.args } w

end CommandShell.Sorting
