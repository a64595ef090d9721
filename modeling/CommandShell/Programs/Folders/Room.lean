import CommandShell.Programs.Amount
import CommandShell.Programs.Folders.Details
import CommandShell.Programs.Glob
import CommandShell.Programs.Sources

/-!
# Room

The tool that tells how much room folders take with all that is in them. A file with several names
counts once.
-/
namespace CommandShell.Room
open NameText

/-- How room is measured and shown. -/
structure Style where
  measure : Entry → Nat
  scale : Details.Scale
  all : Bool
  /-- How deep what is shown can lie. -/
  depth : Option Nat
  /-- Whether folders count apart from those in them. -/
  apart : Bool
  follows : Bool
  /-- Whether a file counts each time that it is met. -/
  repeats : Bool
  zero : Bool
  leastShown : Nat
  mostShown : Option Nat
  /-- The patterns of names that are left out. -/
  excluded : List (List GlobItem)

/-- What has been counted, and the rows that are shown, the newest first. -/
structure Count where
  files : List Nat
  folders : List Location
  rows : List (Nat × String)

namespace Count

def has (l : Location) : Entry → Count → Bool
  | .folder _, c => c.folders.contains l
  | .file f, c => c.files.contains f.identity
  | _, _ => false

def mark (l : Location) : Entry → Count → Count
  | .folder _, c => { c with folders := l :: c.folders }
  | .file f, c => { c with files := f.identity :: c.files }
  | _, c => c

end Count

def Style.shows (s : Style) (level size : Nat) : Bool :=
  s.depth.all (level ≤ ·) && s.leastShown ≤ size && s.mostShown.all (size ≤ ·)

def Count.row (s : Style) (level size : Nat) (name : String) (c : Count) : Count :=
  if s.shows level size then { c with rows := (size, name) :: c.rows } else c

/-- Whether a name is left out: a pattern matches it, or what stands in it behind a slash. -/
def Style.leavesOut (s : Style) (shown : String) : Bool :=
  (endings (byteChars shown)).any fun ending => s.excluded.any (Glob.accepts · ending)
where
  endings (cs : List Char) : List (List Char) := cs :: parts cs
  parts : List Char → List (List Char)
    | [] => []
    | '/' :: rest => if rest.head? = some '/' then parts rest else rest :: parts rest
    | _ :: rest => parts rest

/-- The room of a location and of what is below it; `fuel` bounds the depth. -/
def measureAt (s : Style) (t : FileTree) : Nat → Nat → String → Location → Count → Nat × Count
  | 0, _, _, _, c => (0, c)
  | fuel + 1, level, shown, l, c =>
    match t.get? l with
    | none => (0, c)
    | some e =>
      if s.leavesOut shown || (!s.repeats && c.has l e) then (0, c)
      else
        let c := c.mark l e
        let own := s.measure e
        match e with
        | .folder _ =>
          let (sum, alone, c) := (t.names l).foldl (fun (sum, alone, c) name =>
            let below := l ++ [name]
            let (n, c) := measureAt s t fuel (level + 1) (joined shown name) below c
            let isFolder : Bool := match t.get? below with
              | some (.folder _) => true
              | _ => false
            (sum + n, if isFolder then alone else alone + n, c)) (own, own, c)
          (sum, c.row s level (if s.apart then alone else sum) shown)
        | _ => (own, if s.all || level = 0 then c.row s level own shown else c)

def table : OptionTable :=
  .of "0abd:chHklmst:xB:DLPSX:" ["all a", "apparent-size", "block-size= B", "bytes b",
    "count-links l",
    "dereference L", "dereference-args D", "exclude=", "exclude-from= X", "human-readable h",
    "inodes", "si", "max-depth= d", "null 0", "no-dereference P", "one-file-system x",
    "separate-dirs S", "summarize s", "total c", "threshold= t", "time[=]", "time-style=",
    "files0-from="]

/-- What is said about an amount in an option that cannot be read. -/
def refusal (option text : String) : Amount.Fault → String
  | .tooLarge => s!"{option} argument {Naming.literal text} too large"
  | _ => s!"invalid {option} argument {Naming.literal text}"

/-- How amounts are shown, as the last option about it says. -/
def scaleOf (o : Options) : Except String Details.Scale :=
  match o.last? ["b", "k", "m", "h", "si", "B"] with
  | some ("b", _) => .ok (.steady 1 "")
  | some ("m", _) => .ok (.steady 1048576 "")
  | some ("h", _) => .ok (.growing 1024)
  | some ("si", _) => .ok (.growing 1000)
  | some ("B", some text) => (Details.Scale.read text).mapError (refusal "-B" text)
  | _ => .ok (.steady 1024 "")

def patternOf (cs : List Char) : List GlobItem := Glob.read true (quoted cs)
where
  quoted : List Char → List GlobChar
    | '\\' :: c :: rest => (c, true) :: quoted rest
    | c :: rest => (c, false) :: quoted rest
    | [] => []

/-- Why options say nothing that can be done, and whether they are at odds with one another. -/
structure Refusal where
  misuse : Bool
  message : String

/-- The least or the greatest amount that is shown; the greatest is given with a minus sign. -/
def thresholdOf (o : Options) : Except Refusal (Option (Bool × Nat)) :=
  (o.value? "t").mapM fun text =>
    let greatest : Bool := text.toList.head? = some '-'
    let amount := if greatest then String.ofList (text.toList.drop 1) else text
    match Amount.within 0 Amount.largest "EGgkKmMPTtYZ0" amount with
    | .ok n =>
      if greatest && n = 0 then .error ⟨true, "invalid --threshold argument '-0'"⟩
      else .ok (greatest, n)
    | .error fault => .error ⟨false, refusal "--threshold" text fault⟩

def depthOf (o : Options) : Except Refusal (Option Nat) :=
  (o.value? "d").mapM fun text =>
    (Amount.within 0 Amount.largest "" text).mapError fun _ =>
      ⟨true, s!"invalid maximum depth {Naming.literal text}"⟩

/-- The lines of the files of patterns that are given. -/
def excludedLines (o : Options) (w : World) (input : ByteArray) :
    Except Refusal (List (List Char)) := do
  let files ← (o.values "X").mapM fun name =>
    if name = "-" then pure input
    else (w.contents name).mapError fun fault => ⟨true, s!"{name}: {fault.wording}"⟩
  return files.flatMap fun bytes => (Bytes.chunks bytes).filterMap fun line =>
    let line := line.filter (· ≠ Bytes.lineFeed)
    if line = [] then none else some (line.map fun b => Char.ofNat b.toNat)

def styleOf (o : Options) (w : World) (input : ByteArray) : Except Refusal Style := do
  let scale ← (scaleOf o).mapError fun message => ⟨false, message⟩
  let depth ← depthOf o
  if o.has "a" ∧ o.has "s" then throw ⟨true, "cannot both summarize and show all entries"⟩
  if o.has "s" ∧ depth.any (0 < ·) then
    throw ⟨true, s!"warning: summarizing conflicts with --max-depth={depth.getD 0}"⟩
  let threshold ← thresholdOf o
  let lines ← excludedLines o w input
  return {
    measure := if o.has "inodes" then fun _ => 1
      else if o.hasAny ["b", "apparent-size"] then Details.size else Details.room
    scale := if o.has "inodes" then .steady 1 "" else scale
    all := o.has "a"
    depth := if o.has "s" then some 0 else depth
    apart := o.has "S"
    follows := o.hasAny ["D", "L", "H"]
    repeats := o.has "l"
    zero := o.has "0"
    leastShown := (threshold.filter (!·.1)).elim 0 Prod.snd
    mostShown := (threshold.filter Prod.fst).map Prod.snd
    excluded := ((o.values "exclude").map byteChars ++ lines).map patternOf }

def du : Tool := .withOptions table 1 fun o job w =>
  match styleOf o w job.input.bytes with
  | .error r => ((if r.misuse then Tool.misused else Tool.failing) job r.message 1, w)
  | .ok s =>
    let names := if o.operands = [] then ["."] else o.operands
    let ending := if s.zero then "\x00" else "\n"
    let (reports, total, c) := names.foldl (fun (reports, total, c) name =>
      let fail (fault : FileFault) :=
        (reports ++ [s!"{job.name}: cannot access {Naming.always name}: {fault.wording}"], total, c)
      match w.followFrom s.follows name with
      | .error fault => fail fault
      | .ok (.free _) => fail .notFound
      | .ok spot =>
        let l := match spot with
          | .folder place => place.path
          | .file l _ => l
          | .device l _ => l
          | .link l _ => l
          | .free l => l
        let (n, c) := measureAt s w.files (w.files.entries.length + 2) 0 name l c
        (reports, total + n, c)) (([] : List String), 0, (⟨[], [], []⟩ : Count))
    let row (n : Nat) (name : String) : String := s!"{s.scale.text n}\t{name}{ending}"
    let rows := c.rows.reverse.map fun e => row e.1 e.2
    let rows := if o.has "c" then rows ++ [row total "total"] else rows
    (.of reports (Bytes.ofText (String.join rows)) (if reports = [] then 0 else 1)
      job.input.bytes, w)

end CommandShell.Room
