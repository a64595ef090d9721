import CommandShell.Programs.Amount
import CommandShell.Programs.Sources

/-!
# Sets of bytes

A set of bytes is written as a text of single characters, escapes, ranges, classes and repetitions,
and keeps the order in which they are written. The tool for sets takes bytes away, replaces them and
squeezes runs of them.
-/
namespace CommandShell.ByteSet
open Bytes

def stretch (a b : Nat) : List UInt8 := (List.range' a (b + 1 - a)).map UInt8.ofNat

def class? (name : String) : Option (List UInt8) :=
  let upper := stretch 65 90
  let lower := stretch 97 122
  let digit := stretch 48 57
  match name with
  | "upper" => some upper
  | "lower" => some lower
  | "alpha" => some (upper ++ lower)
  | "digit" => some digit
  | "alnum" => some (digit ++ upper ++ lower)
  | "space" => some (stretch 9 13 ++ [32])
  | "blank" => some [9, 32]
  | "punct" => some (stretch 33 47 ++ stretch 58 64 ++ stretch 91 96 ++ stretch 123 126)
  | "cntrl" => some (stretch 0 31 ++ [127])
  | "graph" => some (stretch 33 126)
  | "print" => some (stretch 32 126)
  | "xdigit" => some (digit ++ stretch 65 70 ++ stretch 97 102)
  | _ => none

def isOctal (c : Char) : Bool := '0' ≤ c && c ≤ '7'

def octal (digits : List Char) : Nat := digits.foldl (fun n c => 8 * n + (c.toNat - 48)) 0

/-- The byte that a letter stands for after a backslash. -/
def control? : Char → Option UInt8
  | 'a' => some 7
  | 'b' => some 8
  | 't' => some 9
  | 'n' => some 10
  | 'v' => some 11
  | 'f' => some 12
  | 'r' => some 13
  | '\\' => some 92
  | _ => none

/-- A byte of a written set; one that was escaped has no meaning of its own. -/
structure Sign where
  byte : UInt8
  escaped : Bool
  deriving DecidableEq

def Sign.isPlain (s : Sign) (c : Char) : Bool := !s.escaped && s.byte.toNat = c.toNat

/-- The bytes of a written set, with escapes resolved; `fuel` bounds the steps. -/
def signs : Nat → List UInt8 → List Sign
  | 0, _ => []
  | _, [] => []
  | fuel + 1, 92 :: rest =>
    let cs := rest.map fun b => Char.ofNat b.toNat
    let three := (cs.take 3).takeWhile isOctal
    let digits := if octal three < 256 then three else three.take 2
    match digits, rest with
    | _ :: _, _ => ⟨UInt8.ofNat (octal digits), true⟩ :: signs fuel (rest.drop digits.length)
    | [], [] => [⟨92, false⟩]
    | [], b :: rest => ⟨(control? (Char.ofNat b.toNat)).getD b, true⟩ :: signs fuel rest
  | fuel + 1, b :: rest => ⟨b, false⟩ :: signs fuel rest

/-- A part of a written set. -/
inductive Element
  | bytes (bytes : List UInt8)
  | cls (name : String) (bytes : List UInt8)
  | same (byte : UInt8)
  /-- A byte so many times; zero times stands for as often as it is needed. -/
  | repeated (byte : UInt8) (times : Nat)
  deriving DecidableEq

def mostRepeated : Nat := 65536

def Element.expand : Element → List UInt8
  | bytes bs => bs
  | cls _ bs => bs
  | same b => [b]
  | repeated b n => List.replicate (min n mostRepeated) b

/-- What stands up to a mark and a bracket, and what follows. -/
def enclosed (mark : Char) : List Sign → Option (List UInt8 × List Sign)
  | s :: t :: rest =>
    if s.isPlain mark && t.isPlain ']' then some ([], rest)
    else (enclosed mark (t :: rest)).map fun e => (s.byte :: e.1, e.2)
  | _ => none

def textOf (bytes : List UInt8) : String := String.ofList (bytes.map fun b => Char.ofNat b.toNat)

/-- The number of repetitions up to a bracket, if there is one, and what follows. -/
def repetition? (signs : List Sign) : Option (Except String Nat × List Sign) :=
  let digits := signs.takeWhile fun s => !s.escaped && s.byte ≠ 93
  match signs.drop digits.length with
  | s :: rest =>
    if s.escaped then none
    else
      let cs := digits.map fun d => Char.ofNat d.byte.toNat
      let value : Except String Nat :=
        if cs = [] then .ok 0
        else if cs.head? = some '0' ∧ cs.all isOctal ∧ octal cs < Amount.largest then .ok (octal cs)
        else if cs.all Char.isDigit ∧ cs.head? ≠ some '0' ∧ readDigits cs < Amount.largest then
          .ok (readDigits cs)
        else
          let shown := Naming.literal (String.ofList cs)
          .error s!"invalid repeat count {shown} in [c*n] construct"
      some (value, rest)
  | [] => none

/-- A class or a repetition behind a bracket that opens it; none if it is neither. -/
def bracketed? (signs : List Sign) : Option (Except String Element × List Sign) :=
  let again : Option (Except String Element × List Sign) :=
    match signs with
    | s :: t :: rest =>
      if t.isPlain '*' then
        (repetition? rest).map fun found => (found.1.map (.repeated s.byte), found.2)
      else none
    | _ => none
  match signs with
  | s :: rest =>
    if s.isPlain ':' then
      match enclosed ':' rest with
      | none => again
      | some (name, after) =>
        match class? (textOf name) with
        | some bs => some (.ok (.cls (textOf name) bs), after)
        | none =>
          again.orElse fun _ =>
            if name = [] then some (.error "missing character class name '[::]'", after)
            else some (.error s!"invalid character class {Naming.literal (textOf name)}", after)
    else if s.isPlain '=' then
      match enclosed '=' rest with
      | none => again
      | some ([b], after) => some (.ok (.same b), after)
      | some ([], after) => some (.error "missing equivalence class character '[==]'", after)
      | some (name, after) =>
        let shown := textOf name
        again.orElse fun _ =>
          some (.error s!"{shown}: equivalence class operand must be a single character", after)
    else again
  | [] => none

def shownByte (b : UInt8) : String :=
  if Naming.shows b then (Naming.charOf b).toString else Naming.escapeOf b

/-- The parts of a written set; `fuel` bounds the steps. -/
def elements : Nat → List Sign → Except String (List Element)
  | 0, _ => .ok []
  | _, [] => .ok []
  | fuel + 1, s :: rest =>
    let special := if s.isPlain '[' ∧ 2 ≤ rest.length then bracketed? rest else none
    match special with
    | some (.error complaint, _) => .error complaint
    | some (.ok e, rest) => do return e :: (← elements fuel rest)
    | none =>
      match rest with
      | t :: u :: after =>
        if t.isPlain '-' then
          if u.byte < s.byte then
            let shown := shownByte s.byte ++ "-" ++ shownByte u.byte
            .error s!"range-endpoints of '{shown}' are in reverse collating sequence order"
          else do return .bytes (stretch s.byte.toNat u.byte.toNat) :: (← elements fuel after)
        else do return .bytes [s.byte] :: (← elements fuel rest)
      | rest => do return .bytes [s.byte] :: (← elements fuel rest)

def read (text : String) : Except String (List Element) :=
  let bytes := bytesOf text
  let ss := signs (bytes.length + 1) bytes
  elements (ss.length + 1) ss

def expand (es : List Element) : List UInt8 := es.flatMap Element.expand

def isFiller : Element → Bool
  | .repeated _ 0 => true
  | _ => false

/-- The set with the bytes that are needed to make it as long as another. -/
def expandTo (length : Nat) (es : List Element) : List UInt8 :=
  let missing := length - (expand es).length
  es.flatMap fun e =>
    match e with
    | .repeated b 0 => List.replicate missing b
    | e => e.expand

def tableOf (bytes : List UInt8) : Array Bool :=
  bytes.foldl (fun t b => t.set! b.toNat true) (Array.replicate 256 false)

def holds (table : Array Bool) (b : UInt8) : Bool := table.getD b.toNat false

def squeeze (table : Array Bool) (bytes : List UInt8) : List UInt8 :=
  let step (out : List UInt8) (b : UInt8) : List UInt8 :=
    if holds table b ∧ out.head? = some b then out else b :: out
  (bytes.foldl step []).reverse

def complement (bytes : List UInt8) : List UInt8 :=
  let table := tableOf bytes
  (stretch 0 255).filter fun b => !holds table b

def replace (source images : List UInt8) (bytes : List UInt8) : List UInt8 :=
  let table := (source.zip images).foldl (fun (t : Array UInt8) e => t.set! e.1.toNat e.2)
    ((stretch 0 255).toArray)
  bytes.map fun b => table.getD b.toNat b

def isCase : Element → Bool
  | .cls "upper" _ => true
  | .cls "lower" _ => true
  | _ => false

def isOtherClass : Element → Bool
  | .cls name _ => name ≠ "upper" && name ≠ "lower"
  | _ => false

def isSame : Element → Bool
  | .same _ => true
  | _ => false

def hasClass (es : List Element) : Bool := es.any fun e => isCase e || isOtherClass e

/-- Where the parts of a set start, with whether they are classes of letters. -/
def starts (es : List Element) : List (Nat × Bool) :=
  (es.foldl (fun (n, out) e => (n + e.expand.length, (n, isCase e) :: out)) (0, [])).2.reverse

/-- Whether each class of letters in the second set stands beside one in the first. -/
def aligned (first second : List Element) : Bool :=
  let there := (starts first).filter (·.2)
  (starts second).all fun e => !e.2 || there.contains e

/-- The second set of a replacement as it is used with the first one. -/
def target (complemented truncates : Bool) (first second : List Element) (source : List UInt8) :
    Except String (List UInt8) :=
  let images := expandTo source.length second
  if 1 < (second.filter isFiller).length then
    .error "only one [c*] repeat construct may appear in string2"
  else if second.any isSame then
    .error "[=c=] expressions may not appear in string2 when translating"
  else if second.any isOtherClass then
    .error ("when translating, the only character classes that may appear in\n" ++
      "string2 are 'upper' and 'lower'")
  else if !complemented && !aligned first second then
    .error "misaligned [:upper:] and/or [:lower:] construct"
  else if images.length < source.length ∧ !truncates then
    match images.getLast?, second.getLast? with
    | none, _ => .error "when not truncating set1, string2 must be non-empty"
    | some last, final =>
      if (final.map isCase).getD false then
        .error ("when translating with string1 longer than string2,\n" ++
          "the latter string must not end with a character class")
      else .ok (images ++ List.replicate (source.length - images.length) last)
  else .ok images

def transform (o : Options) (sets : List (List Element)) :
    Except String (List UInt8 → List UInt8) :=
  let complemented := o.hasAny ["c", "C"]
  let first := sets.headD []
  let whole := expand first
  let source := if complemented then complement whole else whole
  if first.any isFiller then .error "the [c*] repeat construct may not appear in string1"
  else
    match o.has "d", o.has "s", sets.drop 1 with
    | true, false, _ => .ok fun bytes =>
      let table := tableOf source
      bytes.filter fun b => !holds table b
    | true, true, second :: _ =>
      if second.any isFiller then
        .error "the [c*] construct may appear in string2 only when translating"
      else .ok fun bytes =>
        let table := tableOf source
        squeeze (tableOf (expand second)) (bytes.filter fun b => !holds table b)
    | false, true, [] => .ok (squeeze (tableOf source))
    | false, squeezes, second :: _ => do
      let images ← target complemented (o.has "t") first second source
      let homogeneous := images.all fun b => some b = images.head?
      if complemented ∧ hasClass first ∧ ¬ homogeneous then
        throw ("when translating with complemented character classes,\n" ++
          "string2 must map all characters in the domain to one")
      else
        return fun bytes =>
          let replaced := replace source images bytes
          if squeezes then squeeze (tableOf images) replaced else replaced
    | _, _, _ => .ok id

/-- Whether there are as many sets as the options ask for; the complaint if not. -/
def countFault? (o : Options) : Option String :=
  let deletes := o.has "d"
  let squeezes := o.has "s"
  let least := if deletes == squeezes then 2 else 1
  let most := if deletes && !squeezes then 1 else 2
  match o.operands with
  | [] => some "missing operand"
  | operands =>
    let last := Naming.literal (operands.getLastD "")
    if operands.length < least then
      let why := if squeezes
        then "Two strings must be given when both deleting and squeezing repeats."
        else "Two strings must be given when translating."
      some (s!"missing operand after {last}\n" ++ why)
    else if most < operands.length then
      let extra := Naming.literal (operands.getD most "")
      let why := if most = 1 then
          "\nOnly one string may be given when deleting without squeezing repeats."
        else ""
      some (s!"extra operand {extra}" ++ why)
    else none

def tr : Tool := .withLeadingOptions (.of "cCdst" ["complement c", "delete d", "squeeze-repeats s",
    "truncate-set1 t"]) 1 fun o job w =>
  match countFault? o, o.operands.mapM read with
  | some complaint, _ => (Tool.misused job complaint 1, w)
  | none, .error complaint => (Tool.failing job complaint 1, w)
  | none, .ok sets =>
    match transform o sets with
    | .error complaint => (Tool.failing job complaint 1, w)
    | .ok f => (.of [] (f job.input.bytes.toList).toByteArray 0 .empty, w)

end CommandShell.ByteSet
