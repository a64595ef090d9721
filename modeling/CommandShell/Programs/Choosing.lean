import CommandShell.Programs.Amount
import CommandShell.Programs.Folders.Targets
import CommandShell.Programs.Regex.Captures
import CommandShell.Programs.Regex.Reader
import CommandShell.Programs.Sources
import CommandShell.Text.Aligned

/-!
# Choosing lines

Lines in which one of some expressions matches are chosen, or those in which none does, and shown
with their names, numbers and neighbours. Of a file with null bytes nothing is shown but that
something in it was chosen.
-/
namespace CommandShell.Choosing
open Bytes

/-! ## Matching a line -/

/-- What chooses a line. -/
structure Selection where
  simple : List Regex
  /-- Expressions that refer back to their groups. -/
  referring : List Regex
  caseless : Bool
  wholeLines : Bool
  words : Bool
  inverted : Bool

namespace Selection

def fold (s : Selection) (b : UInt8) : UInt8 := if s.caseless then toLower b else b

/-- Where matches end that start at a place, the longest first. -/
def ends (s : Selection) (before : Option UInt8) (rest : List UInt8) : List Nat :=
  let found := Regex.endsFrom s.simple before 0 rest ++
    s.referring.flatMap fun p => Regex.endsWithGroups s.fold p before rest
  (found.mergeSort fun a b => b ≤ a).eraseReps

/-- The byte before a place that is so far into the bytes. -/
def byteAt (before : Option UInt8) (rest : List UInt8) (n : Nat) : Option UInt8 :=
  if n = 0 then before else rest[n - 1]?

/-- The end of the match that counts at a place. -/
def endAt? (s : Selection) (before : Option UInt8) (rest : List UInt8) : Option Nat :=
  let found := s.ends before rest
  if s.wholeLines then
    if before.isNone && found.contains rest.length then some rest.length else none
  else if !s.words then found.head?
  else if isWordAt before then none
  else
    (found.zipIdx.find? fun e =>
      (e.2 = 0 || 0 < e.1) && !isWordAt rest[e.1]?).map Prod.fst

/-- The first match in a line: where it starts and how long it is. -/
def first? (s : Selection) (at_ : Nat) (before : Option UInt8) : List UInt8 → Option (Nat × Nat)
  | [] => (s.endAt? before []).map fun n => (at_, n)
  | b :: rest =>
    match s.endAt? before (b :: rest) with
    | some n => some (at_, n)
    | none => if s.wholeLines then none else first? s (at_ + 1) (some b) rest

def occurs (s : Selection) (line : List UInt8) : Bool :=
  if s.referring = [] && !s.words && !s.wholeLines then Regex.occursIn s.simple line
  else (s.first? 0 none line).isSome

def chooses (s : Selection) (line : List UInt8) : Bool := s.occurs line != s.inverted

/-- The matches in a line that are not empty, one behind the other; `fuel` bounds their number. -/
def stretches (s : Selection) : Nat → Nat → Option UInt8 → List UInt8 → List (Nat × Nat)
  | 0, _, _, _ => []
  | fuel + 1, at_, before, rest =>
    match s.first? at_ before rest with
    | none => []
    | some (start, length) =>
      let skip := start - at_ + max length 1
      let later := if rest.length < skip then []
        else stretches s fuel (at_ + skip) (byteAt before rest skip) (rest.drop skip)
      if length = 0 then later else (start, length) :: later

def stretchesOf (s : Selection) (line : List UInt8) : List (Nat × Nat) :=
  if s.referring = [] && !s.occurs line then [] else s.stretches (line.length + 1) 0 none line

end Selection

/-! ## Showing lines -/

/-- What is shown of a chosen line, and what around it. -/
structure Display where
  title : Option String
  numbers : Bool
  offsets : Bool
  matchesOnly : Bool
  nullTitles : Bool
  tabs : Bool
  coloured : Bool
  /-- How many lines in front and behind; none where nothing is said about them. -/
  context : Option (Nat × Nat)
  separator : Option String
  most : Option Nat
  ending : UInt8

/-- A line with its number and the bytes in front of it. -/
structure NumberedLine where
  bytes : List UInt8
  number : Nat
  offset : Nat

def paint (coloured : Bool) (code : String) (text : List UInt8) : List UInt8 :=
  if coloured then bytesOf s!"\x1b[{code}m\x1b[K" ++ text ++ bytesOf "\x1b[m\x1b[K" else text

namespace Display

def heading (d : Display) (mark : Char) (number offset : Nat) : List UInt8 :=
  let sign := paint d.coloured "36" (bytesOf mark.toString)
  let title := match d.title with
    | none => []
    | some name =>
      paint d.coloured "35" (bytesOf name) ++ if d.nullTitles then [0] else sign
  let digits (n : Nat) : String := if d.tabs then Text.aligned 2 n else toString n
  let count (n : Nat) : List UInt8 := paint d.coloured "32" (bytesOf (digits n)) ++ sign
  let all := title ++ (if d.numbers then count number else []) ++
    if d.offsets then count offset else []
  if d.tabs && all != [] then all ++ [9] else all

def wholeLine (d : Display) (s : Selection) (mark : Char) (l : NumberedLine) : List UInt8 :=
  let body :=
    if d.coloured && mark = ':' && !s.inverted then
      let (out, at_) := (s.stretchesOf l.bytes).foldl (fun (out, at_) m =>
        (out ++ (l.bytes.drop at_).take (m.1 - at_) ++
          paint true "01;31" ((l.bytes.drop m.1).take m.2), m.1 + m.2)) (([] : List UInt8), 0)
      out ++ l.bytes.drop at_
    else l.bytes
  d.heading mark l.number l.offset ++ body ++ [d.ending]

def matchedParts (d : Display) (s : Selection) (l : NumberedLine) : List UInt8 :=
  if s.inverted then []
  else
    (s.stretchesOf l.bytes).flatMap fun m =>
      d.heading ':' l.number (l.offset + m.1) ++
        paint d.coloured "01;31" ((l.bytes.drop m.1).take m.2) ++ [d.ending]

def chosenLine (d : Display) (s : Selection) (l : NumberedLine) : List UInt8 :=
  if d.matchesOnly then d.matchedParts s l else d.wholeLine s ':' l

def neighbour (d : Display) (s : Selection) (l : NumberedLine) : List UInt8 :=
  if d.matchesOnly then [] else d.wholeLine s '-' l

end Display

/-- How far going through the lines has come. -/
structure Walk where
  /-- What has been written, the last first. -/
  out : List (List UInt8)
  /-- Lines that stand in front of the next chosen one, the last first. -/
  before : List NumberedLine
  /-- How many lines behind the last chosen one are still to be shown. -/
  pending : Nat
  /-- The number of the last line that was shown. -/
  last : Option Nat
  chosen : Nat
  /-- The bytes up to the end of the last chosen line. -/
  read : Nat

def Walk.start : Walk := ⟨[], [], 0, none, 0, 0⟩

/-- Goes through lines, up to the chosen one with which it is enough. -/
def walk (d : Display) (s : Selection) : List NumberedLine → Walk → Walk
  | [], w => w
  | l :: rest, w =>
    let (ahead, behind) := d.context.getD (0, 0)
    let enough := d.most == some w.chosen
    let chosen := s.chooses l.bytes
    if enough && w.pending = 0 then w
    else if chosen && !enough then
      let from_ := (w.before.getLast?.getD l).number
      let gap : Bool := match w.last with
        | some n => d.context.isSome && n + 1 != from_
        | none => false
      let sign := match gap, d.separator with
        | true, some text => paint d.coloured "36" (bytesOf text) ++ [lineFeed]
        | _, _ => []
      let out := d.chosenLine s l :: (w.before.map (d.neighbour s)) ++ sign :: w.out
      walk d s rest ⟨out, [], behind, some l.number, w.chosen + 1, l.offset + l.bytes.length + 1⟩
    else if 0 < w.pending then
      walk d s rest { w with
        out := d.neighbour s l :: w.out, pending := w.pending - 1, last := some l.number }
    else walk d s rest { w with before := (l :: w.before).take ahead }

/-- The lines of bytes, with their numbers and offsets. -/
def numbered (lines : List (List UInt8)) : List NumberedLine :=
  (lines.foldl (fun (found, number, offset) line =>
    (⟨line, number, offset⟩ :: found, number + 1, offset + line.length + 1))
    (([] : List NumberedLine), 1, 0)).1.reverse

/-- Bytes cut at an ending; none is needed at the end. -/
def cutAt (isEnding : UInt8 → Bool) (bytes : ByteArray) : List (List UInt8) :=
  let pieces := bytes.toList.foldr (fun b found =>
    match isEnding b, found with
    | true, found => [] :: found
    | false, piece :: rest => (b :: piece) :: rest
    | false, [] => [[b]]) [[]]
  if pieces.getLast? = some [] then pieces.dropLast else pieces

/-! ## Files -/

/-- What happens with files that hold null bytes. -/
inductive BinaryFiles
  | told
  | text
  | skipped
  deriving DecidableEq

/-- What is told of each file. -/
inductive Telling
  | lines
  | count
  | namesWith
  | namesWithout
  | nothing
  deriving DecidableEq

/-- What was found in a file. -/
structure Found where
  chosen : Nat
  output : List UInt8
  binary : Bool
  read : Nat

def findIn (d : Display) (s : Selection) (t : Telling) (b : BinaryFiles) (bytes : ByteArray) :
    Found :=
  let hasNull := d.ending = lineFeed && b != .text && bytes.toList.contains 0
  let isEnding (byte : UInt8) : Bool := byte == d.ending || (hasNull && byte == 0)
  if hasNull && b = .skipped then ⟨0, [], false, 0⟩
  else
    let quick := hasNull && t != .count || !(t = .lines || t = .count)
    let d := if quick then { d with most := some 1, context := none } else d
    let w := walk d s (numbered (cutAt isEnding bytes)) .start
    let output := if t = .lines && !hasNull then w.out.reverse.flatten else []
    ⟨w.chosen, output, hasNull && t = .lines && 0 < w.chosen, w.read⟩

/-- A file to look into, or why that cannot be done. -/
structure Candidate where
  shown : String
  isInput : Bool
  /-- The identity of the file. -/
  identity : Option Nat
  contents : Except String ByteArray

/-- Names that are taken in or left out, by patterns of their endings. -/
structure Filter where
  included : List (List GlobItem)
  excluded : List (List GlobItem)
  excludedFolders : List (List GlobItem)

/-- The endings of a name that start behind a slash, and the whole name. -/
def endings (name : String) : List (List Char) :=
  let cs := byteChars name
  cs :: (List.range cs.length).filterMap fun n =>
    if cs[n]? = some '/' ∧ cs[n + 1]? ≠ none ∧ cs[n + 1]? ≠ some '/' then some (cs.drop (n + 1))
    else none

def matchesAny (patterns : List (List GlobItem)) (name : String) : Bool :=
  (endings name).any fun cs => patterns.any fun p => Glob.accepts p cs

def Filter.takes (f : Filter) (name : String) : Bool :=
  !matchesAny f.excluded name && (f.included = [] || matchesAny f.included name)

/-- The files below a folder, in the order of their names. -/
def filesBelow (w : World) (f : Filter) (followLinks : Bool) :
    Nat → String → Location → List Candidate
  | 0, _, _ => []
  | fuel + 1, shown, l =>
    (w.files.names l).flatMap fun name =>
      let text := if shown = "" then name else NameText.joined shown name
      let file (data : FileData) : List Candidate :=
        if f.takes name then [⟨text, false, some data.identity, .ok data.bytes⟩] else []
      match w.files.get? (l ++ [name]) with
      | some (.folder _) =>
        if matchesAny f.excludedFolders name then []
        else filesBelow w f followLinks fuel text (l ++ [name])
      | some (.file data) => file data
      | some (.link _) =>
        if !followLinks then []
        else
          match w.files.find true (mostLinks + 1) ⟨l, 0⟩ [name] with
          | .ok (.file _ data) => file data
          | .ok (.folder place) => filesBelow w f followLinks fuel text place.path
          | _ => []
      | _ => []

/-- How folders are treated. -/
inductive Folders
  | refused
  | skipped
  | searched (followLinks : Bool)
  deriving DecidableEq

def candidates (w : World) (label : String) (folders : Folders) (f : Filter) :
    Input → List String → List Candidate
  | _, [] => []
  | input, name :: rest =>
    if Source.isInput name then
      let shown := if name = "-" then label else name
      let source : Source := ⟨name, .input input.kind, .ok input.bytes⟩
      ⟨shown, true, source.identity?, .ok input.bytes⟩ ::
        candidates w label folders f { input with bytes := .empty } rest
    else
      let plain (contents : Except FileFault ByteArray) : List Candidate :=
        [⟨name, false, none, contents.mapError FileFault.wording⟩]
      let here : List Candidate := match w.follow name with
        | .error fault => plain (.error fault)
        | .ok (.free _) => plain (.error .notFound)
        | .ok (.link ..) => plain (.error .tooManyLinks)
        | .ok (.device l d) => plain (w.readAt (.device l d))
        | .ok (.file _ data) =>
          if f.takes name then [⟨name, false, some data.identity, .ok data.bytes⟩] else []
        | .ok (.folder place) =>
          match folders with
          | .refused => plain (.error .isFolder)
          | .skipped => []
          | .searched followLinks =>
            if matchesAny f.excludedFolders (NameText.trimmed name) then []
            else filesBelow w f followLinks (w.files.entries.length + 1) name place.path
      here ++ candidates w label folders f input rest

/-! ## The tool -/

def table : OptionTable :=
  .of "0123456789A:B:C:EFGHIPTUVX:abcd:D:e:f:hiLlm:noqRrsuvwxyZz" ["basic-regexp G",
    "extended-regexp E", "fixed-regexp F", "fixed-strings F", "perl-regexp P", "after-context= A",
    "before-context= B", "binary-files=", "binary U", "color[=]", "colour[=] color", "context= C",
    "count c", "devices= D", "directories= d", "exclude=", "exclude-from=", "exclude-dir=",
    "file= f",
    "files-with-matches l", "files-without-match L", "group-separator=", "help", "include=",
    "ignore-case i", "no-ignore-case", "initial-tab T", "label=", "line-buffered", "line-number n",
    "line-regexp x", "max-count= m", "no-filename h", "no-group-separator", "no-messages s",
    "null Z",
    "null-data z", "only-matching o", "quiet q", "recursive r", "dereference-recursive R",
    "regexp= e", "invert-match v", "silent q", "text a", "unix-byte-offsets u", "version V",
    "with-filename H", "word-regexp w", "byte-offset b"]

def patternLines (cs : List Char) : List (List Char) := Text.cut (· == '\n') cs

/-- The patterns that options give, in order, or why a file of them cannot be read. -/
def givenPatterns (w : World) (input : ByteArray) (o : Options) :
    Except String (Option (List (List Char)) × ByteArray) :=
  o.given.foldlM (fun (found, input) g =>
    match g with
    | ("e", some text) =>
      .ok (some (found.getD [] ++ patternLines (byteChars text)), input)
    | ("f", some name) => do
      let (bytes, left) ← if name = "-" then pure (input, .empty)
        else match w.contents name with
          | .ok bytes => pure (bytes, input)
          | .error fault => throw s!"{name}: {fault.wording}"
      let cs := bytes.toList.map fun b => Char.ofNat b.toNat
      let lines := if cs = [] then [] else
        patternLines (if cs.getLast? = some '\n' then cs.dropLast else cs)
      return (some (found.getD [] ++ lines), left)
    | _ => .ok (found, input)) ((none : Option (List (List Char))), input)

def selectionOf (o : Options) (patterns : List (List Char)) : Except RegexFault Selection := do
  let kind := o.lastKey? ["E", "F", "G", "P"]
  let caseless := match o.lastKey? ["i", "y", "no-ignore-case"] with
    | some "no-ignore-case" => false
    | found => found.isSome
  let form : RegexForm := ⟨kind = some "E" ∨ kind = some "P", caseless⟩
  let found ← patterns.mapM fun cs =>
    if kind = some "F" then pure (RegexReader.readLiteral form cs) else RegexReader.read form cs
  return {
    simple := (found.filter (!·.refersBack)).eraseReps
    referring := found.filter (·.refersBack)
    caseless
    wholeLines := o.has "x"
    words := o.has "w"
    inverted := o.has "v" }

def contextOf (o : Options) : Except String (Option (Nat × Nat)) := do
  let number (text : String) : Except String Nat :=
    if Amount.isDigits text.toList then .ok (readDigits text.toList)
    else .error s!"{text}: invalid context length argument"
  let digits := o.given.filterMap fun g =>
    match g.1.toList with
    | [c] => if c.isDigit then some c else none
    | _ => none
  let around := if digits ≠ [] then some (readDigits digits) else none
  let around ← match o.value? "C" with
    | some text => (number text).map some
    | none => pure around
  let ahead ← (o.value? "B").mapM number
  let behind ← (o.value? "A").mapM number
  if around.isNone ∧ ahead.isNone ∧ behind.isNone then return none
  else return some ((ahead.or around).getD 0, (behind.or around).getD 0)

def tellingOf (o : Options) : Telling :=
  if o.has "q" then .nothing
  else
    match o.lastKey? ["l", "L"] with
    | some "l" => .namesWith
    | some _ => .namesWithout
    | none => if o.has "c" then .count else .lines

def binaryOf (o : Options) : Except String BinaryFiles :=
  match o.last? ["a", "binary-files", "I"] with
  | none => .ok .told
  | some ("a", _) => .ok .text
  | some (_, some "binary") => .ok .told
  | some (_, some "text") => .ok .text
  | some (_, some "without-match") => .ok .skipped
  | some ("I", _) => .ok .skipped
  | some _ => .error "unknown binary-files type"

def foldersOf (o : Options) : Except String Folders :=
  match o.last? ["r", "R", "d"] with
  | some ("r", _) => .ok (.searched false)
  | some ("R", _) => .ok (.searched true)
  | some (_, some "skip") => .ok .skipped
  | some (_, some "recurse") => .ok (.searched false)
  | some (_, some "read") => .ok .refused
  | some (_, some word) => .error s!"invalid argument {Naming.always word} for '--directories'"
  | _ => .ok .refused

def tell (d : Display) (t : Telling) (shown : String) (found : Found) : List UInt8 :=
  let name (n : Bool) : List UInt8 :=
    if n then paint d.coloured "35" (bytesOf shown) ++ [if d.nullTitles then 0 else lineFeed]
    else []
  match t with
  | .nothing => []
  | .namesWith => name (0 < found.chosen)
  | .namesWithout => name (found.chosen = 0)
  | .count =>
    let title := { d with numbers := false, offsets := false, tabs := false }.heading ':' 0 0
    title ++ bytesOf (toString found.chosen ++ "\n")
  | .lines => found.output

/-- Everything that has been decided before the files are looked into. -/
structure Task where
  selection : Selection
  display : Display
  telling : Telling
  binary : BinaryFiles
  titled : Bool
  silent : Bool

/-- Whether what is found may make a file longer that is still to be looked into. -/
def Task.writesMore (k : Task) : Bool := k.telling = .lines && k.display.most.all (1 < ·)

/-- Looks into files one after the other, but not into the one that takes the output. -/
def run (k : Task) (target : Option Nat) (found : List Candidate) :
    List Written × Bool × Bool × Nat :=
  found.foldl (fun (out, any, failed, read) c =>
    if any && k.telling = .nothing then (out, any, failed, read)
    else if k.writesMore && c.identity.isSome && c.identity = target then
      let said := s!"grep: {c.shown}: input file is also the output\n"
      (if k.silent then out else ⟨true, ofText said⟩ :: out, any, true, read)
    else
      match c.contents with
      | .error message =>
        let said := s!"grep: {c.shown}: {message}\n"
        (if k.silent then out else ⟨true, ofText said⟩ :: out, any, true, read)
      | .ok bytes =>
        let d := { k.display with title := if k.titled then some c.shown else none }
        let result := findIn d k.selection k.telling k.binary bytes
        let text := tell d k.telling c.shown result
        let out := if text = [] then out else ⟨false, text.toByteArray⟩ :: out
        let out := if result.binary then
            ⟨true, ofText s!"grep: {c.shown}: binary file matches\n"⟩ :: out
          else out
        (out, any || 0 < result.chosen, failed, if c.isInput then result.read else read))
    (([] : List Written), false, false, 0)

def taskOf (o : Options) (names : List String) (recursive : Bool) (leadsToFolder : String → Bool)
    (patterns : List (List Char)) : Except String Task := do
  let selection ← (selectionOf o patterns).mapError RegexFault.message
  let context ← contextOf o
  let binary ← binaryOf o
  let most ← (o.value? "m").mapM fun text =>
    match Amount.whole? text with
    | some n => pure n
    | none => throw "invalid max count"
  let ending : UInt8 := if o.has "z" then 0 else lineFeed
  let display : Display :=
    { title := none
      numbers := o.has "n"
      offsets := o.has "b"
      matchesOnly := o.has "o"
      nullTitles := o.has "Z"
      tabs := o.has "T"
      coloured := o.value? "color" = some "always"
      context
      separator := match o.last? ["no-group-separator", "group-separator"] with
        | some ("group-separator", found) => found
        | some _ => none
        | none => some "--"
      most := most.bind fun n => if n < 0 then none else some n.toNat
      ending }
  let titled := match o.lastKey? ["h", "H"] with
    | some "H" => true
    | some _ => false
    | none => 1 < names.length || (recursive && names.all leadsToFolder)
  return { selection, display, telling := tellingOf o, binary, titled, silent := o.has "s" }

def grepWith (o : Options) : Tool := fun job w =>
  let input := job.input.bytes
  let failed (message : String) : ToolEnd × World := (.of [s!"grep: {message}"] .empty 2 input, w)
  let kinds := (o.given.map Prod.fst).filter fun k => k ∈ ["E", "F", "G", "P"]
  if kinds.any (some · != kinds.head?) then failed "conflicting matchers specified"
  else match givenPatterns w input o, foldersOf o with
  | .error message, _ => failed message
  | _, .error message => failed message
  | .ok (given, left), .ok folders =>
    let patterns := given.or ((o.operands.head?).map fun text => patternLines (byteChars text))
    let names := if given.isSome then o.operands else o.operands.drop 1
    match patterns with
    | none =>
      (.of ["Usage: grep [OPTION]... PATTERNS [FILE]...",
        "Try 'grep --help' for more information."] .empty 2 input, w)
    | some patterns =>
      let recursive : Bool := match folders with
        | .searched _ => true
        | _ => false
      let globs (key : String) : List (List GlobItem) :=
        (o.values key).map fun text => Glob.read true ((byteChars text).map fun c => (c, false))
      let filter : Filter := ⟨globs "include", globs "exclude", globs "exclude-dir"⟩
      let label := (o.value? "label").getD "(standard input)"
      let found :=
        if names = [] ∧ recursive then
          filesBelow w filter (folders = .searched true) (w.files.entries.length + 1) ""
            w.place.path
        else
          candidates w label folders filter ⟨job.input.kind, left⟩
            (if names = [] then ["-"] else names)
      match taskOf o names recursive (Targets.isFolder w true) patterns with
      | .error message => failed message
      | .ok k =>
        if k.display.most = some 0 then (.of [] .empty 1 input, w)
        else
          let (written, any, bad, read) := run k job.target found
          let usesInput := found.any (·.isInput)
          let unread :=
            if !usesInput then left
            else
              match job.input.kind, k.display.most with
              | .file _, some _ => Bytes.slice left read left.size
              | _, _ => .empty
          let status : Int := if any && k.telling = .nothing then 0 else if bad then 2
            else if any then 0 else 1
          (⟨written.reverse, status, unread⟩, w)

def grep : Tool := fun job w =>
  match Options.read table true job.args with
  | .error fault =>
    (.of [s!"grep: {fault.message}", "Usage: grep [OPTION]... PATTERNS [FILE]...",
      "Try 'grep --help' for more information."] .empty 2 job.input.bytes, w)
  | .ok o => grepWith o job w

/-- The forms of the tool with one kind of pattern. -/
def egrep : Tool := fun job w => grep { job with args := "-E" :: job.args } w

def fgrep : Tool := fun job w => grep { job with args := "-F" :: job.args } w

end CommandShell.Choosing
