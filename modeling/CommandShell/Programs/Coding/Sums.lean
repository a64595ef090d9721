import CommandShell.Programs.Amount
import CommandShell.Programs.Coding.Digest
import CommandShell.Programs.Sources
import CommandShell.Text.Aligned
import CommandShell.Text.Utf8

/-!
# Checking texts

The tools that write the digests of what they read, and those that check such lists. A name with a
line end or a backslash in it is written with escapes, and a backslash in front of its line says so.
-/
namespace CommandShell.Sums
open Bytes Text

/-- A kind of digest: its name in tagged lines, the bytes it has, and how it is computed. -/
structure Method where
  tag : String
  size : Nat
  digest : ByteArray → List UInt8

def md5 : Method := ⟨"MD5", 16, Digest.md5⟩
def sha1 : Method := ⟨"SHA1", 20, Digest.sha1⟩
def sha224 : Method := ⟨"SHA224", 28, Digest.sha224⟩
def sha256 : Method := ⟨"SHA256", 32, Digest.sha256⟩
def sha384 : Method := ⟨"SHA384", 48, Digest.sha384⟩
def sha512 : Method := ⟨"SHA512", 64, Digest.sha512⟩

/-- A digest of so many bits; the usual number of them is not said. -/
def blake2b (bits : Nat) : Method :=
  ⟨if bits = 512 then "BLAKE2b" else s!"BLAKE2b-{bits}", bits / 8, Digest.blake2b (bits / 8)⟩

def hex (bytes : List UInt8) : String := String.join (bytes.map Utf8.hexByte)

/-! ## Writing -/

/-- How a line is written. -/
structure LineForm where
  tagged : Bool
  binary : Bool
  zero : Bool

def needsEscape (name : String) : Bool := name.toList.any fun c => c = '\n' || c = '\\' || c = '\r'

def escaped (name : String) : String :=
  String.ofList (name.toList.flatMap fun c =>
    if c = '\n' then ['\\', 'n'] else if c = '\r' then ['\\', 'r']
    else if c = '\\' then ['\\', '\\'] else [c])

def line (m : Method) (f : LineForm) (name : String) (bytes : ByteArray) : String :=
  let escapes := !f.zero && needsEscape name
  let shown := if escapes then escaped name else name
  let mark := if escapes then "\\" else ""
  let digest := hex (m.digest bytes)
  let ending := if f.zero then "\x00" else "\n"
  if f.tagged then mark ++ s!"{m.tag} ({shown}) = {digest}" ++ ending
  else mark ++ digest ++ (if f.binary then " *" else "  ") ++ shown ++ ending

/-! ## Checking -/

/-- A name as it is meant; none if it has an escape that is none. -/
def unescaped : List Char → Option (List Char)
  | [] => some []
  | '\\' :: 'n' :: rest => (unescaped rest).map ('\n' :: ·)
  | '\\' :: 'r' :: rest => (unescaped rest).map ('\r' :: ·)
  | '\\' :: '\\' :: rest => (unescaped rest).map ('\\' :: ·)
  | '\\' :: _ => none
  | c :: rest => (unescaped rest).map (c :: ·)

def isHex (c : Char) : Bool := c.isDigit || ('a' ≤ c && c ≤ 'f') || ('A' ≤ c && c ≤ 'F')

/-- Which digests a list can have: by the tag of a line, and by the number of digits of a line
without one. -/
structure Known where
  tagged : String → Option Method
  untagged : Nat → Option Method

def Known.only (m : Method) : Known :=
  ⟨fun tag => if tag = m.tag then some m else none,
    fun digits => if digits = 2 * m.size then some m else none⟩

def isGap (c : Char) : Bool := c = ' ' || c = '\t'

/-- A line of a list: how the digest is made, its digits, and the name. -/
structure Entry where
  method : Method
  digits : List Char
  name : String

/-- The entry that a line of a list is; none if it is not in the right form. -/
def entry? (k : Known) (text : List Char) : Option Entry := do
  let cs := text.dropWhile isGap
  let (escapes, cs) := match cs with
    | '\\' :: rest => (true, rest)
    | cs => (false, cs)
  let tag := cs.takeWhile fun c => !isGap c && c != '('
  match (cs.drop tag.length).dropWhile (· = ' '), k.tagged (String.ofList tag) with
  | '(' :: rest, some method =>
    let back := rest.reverse
    let behind := (back.takeWhile (· ≠ ')')).reverse
    match behind.dropWhile isGap, back.drop behind.length with
    | '=' :: digits, ')' :: name =>
      of method escapes (digits.dropWhile isGap) name.reverse
    | _, _ => none
  | _, _ =>
    let digits := cs.takeWhile isHex
    let method ← k.untagged digits.length
    match cs.drop digits.length with
    | ' ' :: ' ' :: name => of method escapes digits name
    | ' ' :: '*' :: name => of method escapes digits name
    | g :: name => if isGap g then of method escapes digits name else none
    | [] => none
where
  of (m : Method) (escapes : Bool) (digits name : List Char) : Option Entry := do
    if digits.length ≠ 2 * m.size ∨ ¬ digits.all isHex ∨ name = [] then none
    else
      let name ← if escapes then unescaped name else some name
      return ⟨m, digits.map Char.toLower, String.ofList name⟩

/-- How checking reports. -/
structure Strictness where
  quiet : Bool
  silent : Bool
  ignoresMissing : Bool
  strict : Bool

/-- What has been found in a list. -/
structure Findings where
  shown : List String
  said : List String
  formed : Nat
  malformed : Nat
  unread : Nat
  wrong : Nat
  right : Nat

def checkLine (known : Known) (k : Strictness) (tool : String) (w : World) (f : Findings)
    (text : List Char) : Findings :=
  if text.head? = some '#' then f
  else
    match entry? known text with
    | none => { f with malformed := f.malformed + 1 }
    | some ⟨m, digest, name⟩ =>
      let f := { f with formed := f.formed + 1 }
      let shown := if needsEscape name then "\\" ++ escaped name else name
      let show_ (text : String) (f : Findings) : Findings :=
        if k.silent then f else { f with shown := f.shown ++ [s!"{shown}: {text}"] }
      match w.contents name with
      | .error fault =>
        if k.ignoresMissing ∧ fault = .notFound then f
        else
          show_ "FAILED open or read" { f with
            unread := f.unread + 1
            said := f.said ++ [s!"{tool}: {Naming.ifNeeded name}: {fault.wording}"] }
      | .ok bytes =>
        if hex (m.digest bytes) = String.ofList digest then
          let f := { f with right := f.right + 1 }
          if k.quiet then f else show_ "OK" f
        else show_ "FAILED" { f with wrong := f.wrong + 1 }

/-- Checks a list, and whether all of it is right. -/
def checkList (known : Known) (k : Strictness) (tool : String) (w : World) (name : String)
    (bytes : ByteArray) : List String × List String × Bool :=
  let texts := (lines bytes).map fun l => byteText (if l.getLast? = some 13 then l.dropLast else l)
  let f := texts.foldl (checkLine known k tool w) ⟨[], [], 0, 0, 0, 0, 0⟩
  let shown := if name = "-" then "'standard input'" else Naming.ifNeeded name
  let count (n : Nat) (one many : String) : List String :=
    if n = 0 ∨ k.silent then []
    else if n = 1 then [s!"{tool}: WARNING: 1 {one}"] else [s!"{tool}: WARNING: {n} {many}"]
  if f.formed = 0 then
    (f.shown, f.said ++ [s!"{tool}: {shown}: no properly formatted checksum lines found"], false)
  else
    let unverified := k.ignoresMissing && f.right = 0
    let said := f.said ++
      count f.malformed "line is improperly formatted" "lines are improperly formatted" ++
      count f.unread "listed file could not be read" "listed files could not be read" ++
      count f.wrong "computed checksum did NOT match" "computed checksums did NOT match" ++
      (if unverified then [s!"{tool}: {shown}: no file was verified"] else [])
    (f.shown, said, !unverified && f.unread = 0 && f.wrong = 0 && !(k.strict && f.malformed ≠ 0))
where
  byteText (l : List UInt8) : List Char :=
    match Utf8.decode l.toByteArray with
    | .ok s => s.toList
    | .error _ => l.map fun b => Char.ofNat b.toNat

/-! ## The tools -/

def table : OptionTable :=
  .of "bctwzl:" ["binary b", "check c", "text t", "warn w", "zero z", "tag", "quiet", "status",
    "ignore-missing", "strict", "length= l"]

def checkingOptions : List (String × String) :=
  [("ignore-missing", "ignore-missing"), ("status", "status"), ("w", "warn"), ("quiet", "quiet"),
    ("strict", "strict")]

/-- The complaint about options that do not go together; `tagged` says whether lines have tags. -/
def misuse? (o : Options) (tagged : Bool) : Option String :=
  let mode := o.lastKey? ["b", "t"]
  if tagged ∧ mode = some "t" ∧ ¬ o.has "c" then some "--tag does not support --text mode"
  else if o.has "z" ∧ o.has "c" then
    some "the --zero option is not supported when verifying checksums"
  else if o.has "tag" ∧ o.has "c" then
    some "the --tag option is meaningless when verifying checksums"
  else if mode.isSome ∧ o.has "c" then
    some "the --binary and --text options are meaningless when verifying checksums"
  else if o.has "c" then none
  else
    (checkingOptions.find? fun e => o.has e.1).map fun e =>
      s!"the --{e.2} option is meaningful only when verifying checksums"

def write (m : Method) (tagged : Bool) : Options → Tool :=
  Tool.reading fun o job sources =>
    let f : LineForm := ⟨tagged, o.lastKey? ["b", "t"] = some "b", o.has "z"⟩
    ⟨Source.complaints job.name sources,
      ofText (String.join ((Source.found sources).map fun e => line m f e.1 e.2)),
      Source.status sources⟩

def check (known : Known) (o : Options) : Tool := fun job w =>
  Tool.reading (fun o job sources =>
    let k : Strictness := ⟨o.hasAny ["quiet", "status"], o.has "status", o.has "ignore-missing",
      o.has "strict"⟩
    let checked := (Source.found sources).map fun e => checkList known k job.name w e.1 e.2
    let shown := checked.flatMap (·.1)
    let said := checked.flatMap (·.2.1)
    ⟨Source.complaints job.name sources ++ said, ofText (String.join (shown.map (· ++ "\n"))),
      if Source.readable sources ∧ checked.all (·.2.2) then 0 else 1⟩) o job w

/-- Writes digests, or checks lists of them. -/
def sumsWith (m : Method) (known : Known) (tagged : Bool) (o : Options) : Tool := fun job w =>
  match misuse? o tagged with
  | some message => (Tool.misused job message 1, w)
  | none => if o.has "c" then check known o job w else write m tagged o job w

def tool (m : Method) : Tool :=
  .withOptions table 1 fun o => sumsWith m (.only m) (o.has "tag") o

/-! ## Digests of any length -/

def lengthMethod (o : Options) : Except String Method :=
  match o.value? "l" with
  | none => .ok (blake2b 512)
  | some text =>
    match Amount.within 0 512 "" text with
    | .ok n =>
      if n % 8 ≠ 0 then .error s!"invalid length: {Naming.literal text}"
      else .ok (blake2b (if n = 0 then 512 else n))
    | .error _ => .error s!"invalid length: {Naming.literal text}"

def isLength (bits : Nat) : Bool := bits ≠ 0 && bits % 8 = 0 && bits ≤ 512

/-- Digests of all lengths; the number of digits tells the length, or the tag does. -/
def anyLength : Known where
  tagged tag :=
    let cs := tag.toList
    let plain := "BLAKE2b".toList
    if cs = plain then some (blake2b 512)
    else if (plain ++ ['-']).isPrefixOf cs then
      let digits := cs.drop (plain.length + 1)
      let bits := readDigits digits
      if Amount.isDigits digits ∧ isLength bits then some (blake2b bits) else none
    else none
  untagged digits := if isLength (4 * digits) then some (blake2b (4 * digits)) else none

def b2sum : Tool := .withOptions table 1 fun o job w =>
  match lengthMethod o with
  | .error message => (Tool.failing job message 1, w)
  | .ok m => sumsWith m anyLength (o.has "tag") o job w

/-! ## Sums without a digest -/

/-- A sum, and the size as it is shown beside it. -/
inductive PlainSum
  | cyclic
  | turning
  | plain
  deriving DecidableEq

def blocks (size n : Nat) : Nat := (n + size - 1) / size

def PlainSum.line (k : PlainSum) (ending name : String) (bytes : ByteArray) : String :=
  let numbers := match k with
    | .cyclic => s!"{Digest.crc bytes} {bytes.size}"
    | .plain => s!"{Digest.plainSum bytes} {blocks 512 bytes.size}"
    | .turning =>
      let digits := toString (Digest.turningSum bytes)
      String.ofList (List.replicate (5 - digits.length) '0') ++ digits ++ " " ++
        aligned 5 (blocks 1024 bytes.size)
  numbers ++ (if name = "" then "" else " " ++ name) ++ ending

def plainSums (k : PlainSum) : Options → Tool :=
  Tool.reading fun o job sources =>
    let ending := if o.has "z" then "\x00" else "\n"
    ⟨Source.complaints job.name sources,
      ofText (String.join ((Source.found sources).map fun e =>
        k.line ending (if o.operands = [] then "" else e.1) e.2)),
      Source.status sources⟩

def sum : Tool := .withOptions (.of "rs" ["sysv s"]) 1 fun o =>
  plainSums (if o.lastKey? ["r", "s"] = some "s" then .plain else .turning) o

/-! ## The tool for all of them -/

inductive Algorithm
  | sum (k : PlainSum)
  | digest (m : Method)
  | anyLength

def algorithms : List (String × Algorithm) :=
  [("bsd", .sum .turning), ("sysv", .sum .plain), ("crc", .sum .cyclic), ("md5", .digest md5),
    ("sha1", .digest sha1), ("sha224", .digest sha224), ("sha256", .digest sha256),
    ("sha384", .digest sha384), ("sha512", .digest sha512), ("blake2b", .anyLength)]

/-- Digests of all kinds, by their tags. -/
def anyKind : Known where
  tagged tag := ([md5, sha1, sha224, sha256, sha384, sha512].find? (·.tag = tag)).or
    (anyLength.tagged tag)
  untagged _ := none

def cksum : Tool :=
  .withOptions (.of "a:bctl:wz" ["algorithm= a", "length= l", "check c", "untagged", "tag", "quiet",
    "status", "ignore-missing", "strict", "warn w", "zero z", "debug", "binary b", "text t"]) 1
    fun o job w =>
    let tagged : Bool := o.lastKey? ["tag", "untagged"] ≠ some "untagged"
    let given := (o.value? "a").map fun name => (name, algorithms.lookup name)
    let digests (m : Method) (known : Known) : ToolEnd × World :=
      if tagged && o.lastKey? ["b", "t"] = some "t" then
        (Tool.misused job "--text mode is only supported with --untagged" 1, w)
      else sumsWith m known tagged o job w
    let isAnyLength : Bool := match given with
      | some (_, some .anyLength) => true
      | _ => false
    if o.has "l" ∧ ¬ isAnyLength then
      (Tool.failing job "--length is only supported with --algorithm=blake2b" 1, w)
    else
      match given with
      | some (name, none) =>
        (Tool.misused job s!"invalid argument {Naming.always name} for '--algorithm'" 1, w)
      | some (_, some (.digest m)) => digests m (.only m)
      | some (_, some .anyLength) =>
        match lengthMethod o with
        | .error message => (Tool.failing job message 1, w)
        | .ok m => digests m Sums.anyLength
      | some (_, some (.sum k)) =>
        if o.has "c" then
          (Tool.failing job "--check is not supported with --algorithm=\x7bbsd,sysv,crc\x7d" 1, w)
        else sumOf k o job w
      | none => if o.has "c" then digests md5 anyKind else sumOf .cyclic o job w
where
  /-- A sum, if no option is there that asks for digests. -/
  sumOf (k : PlainSum) (o : Options) : Tool := fun job w =>
    if o.lastKey? ["b", "t"] = some "t" ∧ ¬ o.has "untagged" then
      (Tool.misused job "--text mode is only supported with --untagged" 1, w)
    else
      match misuse? o false with
      | some message => (Tool.misused job message 1, w)
      | none => plainSums k o job w

end CommandShell.Sums
