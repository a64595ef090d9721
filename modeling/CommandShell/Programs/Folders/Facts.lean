import CommandShell.Programs.Folders.Details
import CommandShell.Programs.Printing.Escapes
import CommandShell.Programs.Printing.Slot

/-!
# Facts about files

The tool that tells what is known about a file, in a format in which a percent sign opens a
directive. The world keeps no times and no numbers for files, so that these are zero.
-/
namespace CommandShell.Facts
open Bytes

/-- A file under the name by which it was asked for. -/
structure Subject where
  name : String
  /-- Whether names are shown as in reports where that is asked for. -/
  quotes : Bool
  tree : FileTree
  location : Location
  entry : Entry

def kindWords : Entry → String
  | .folder _ => "directory"
  | .file f => if f.bytes.isEmpty then "regular empty file" else "regular file"
  | .link _ => "symbolic link"
  | .device _ => "character special file"

/-- The number of a kind, as it stands in front of a mode. -/
def kindNumber : Entry → Nat
  | .folder _ => 0o040000
  | .file _ => 0o100000
  | .link _ => 0o120000
  | .device _ => 0o020000

/-- What a directive stands for. -/
inductive Fact
  | text (s : String)
  | number (n : Nat)
  | octal (n : Nat)
  | hexadecimal (n : Nat)

/-- A name as a report shows it; a link with what it leads to. -/
def quotedName (s : Subject) : String :=
  let shown (name : String) : String := if s.quotes then Naming.always name else name
  match s.entry with
  | .link target => s!"{shown s.name} -> {shown target}"
  | _ => shown s.name

def user : String := "root"

def time : String := "1970-01-01 00:00:00.000000000 +0000"

def deviceNumber (s : Subject) (major : Bool) : Nat :=
  match s.entry with
  | .device d => if major then (Details.deviceNumbers d).1 else (Details.deviceNumbers d).2
  | _ => 0

/-- What a letter asks for; a letter that asks for nothing is a question mark. -/
def factOf (s : Subject) (letter : Char) : Fact :=
  match letter with
  | 'n' => .text s.name
  | 'N' => .text (quotedName s)
  | 'F' => .text (kindWords s.entry)
  | 's' => .number (Details.size s.entry)
  | 'b' => .number (Details.room s.entry / 512)
  | 'B' => .number 512
  | 'o' => .number Details.blockSize
  | 'h' => .number (Details.names s.tree s.location s.entry)
  | 'a' => .octal (Mode.ofEntry s.entry)
  | 'A' => .text (Details.modeText s.entry)
  | 'f' => .hexadecimal (kindNumber s.entry + Mode.ofEntry s.entry)
  | 'U' => .text user
  | 'G' => .text user
  | 'm' => .text "/"
  | 't' => .hexadecimal (deviceNumber s true)
  | 'T' => .hexadecimal (deviceNumber s false)
  | 'w' => .text "-"
  | 'C' => .text "?"
  | c =>
    if "udgiDrRWXYZ".contains c then .number 0
    else if "xyz".contains c then .text time
    else .text "?"

def Fact.fill (slot : Slot) : Fact → List Char
  | text s => { slot with zeros := false }.text ((bytesOf s).map Naming.charOf)
  | number n => { slot with letter := 'u' }.unsignedNumber n
  | octal n => { slot with letter := 'o' }.unsignedNumber n
  | hexadecimal n => { slot with letter := 'x' }.unsignedNumber n

/-- The slot behind a percent sign, up to its letter, and the rest. -/
def slotOf (cs : List Char) : Slot × List Char :=
  let flags := cs.takeWhile fun c => "'-+ #0I".contains c
  let rest := cs.drop flags.length
  let width := rest.takeWhile Char.isDigit
  let rest := rest.drop width.length
  let (precision, rest) := match rest with
    | '.' :: more =>
      let digits := more.takeWhile Char.isDigit
      (some (readDigits digits), more.drop digits.length)
    | rest => (none, rest)
  ({ Slot.plain ' ' with
     left := flags.contains '-'
     zeros := flags.contains '0'
     alternate := flags.contains '#'
     width := readDigits width
     precision }, rest)

def widest : Nat := 1048576

/-- The characters of a format for a subject, and the directive that breaks it off if one does;
`fuel` bounds the steps. -/
def formatted (s : Subject) (escapes : Bool) : Nat → List Char → List Char × Option String
  | 0, _ => ([], none)
  | _, [] => ([], none)
  | fuel + 1, '%' :: rest =>
    let (slot, behind) := slotOf rest
    let bare : Bool := behind.length = rest.length
    let directive (more : List Char) : String :=
      String.ofList ('%' :: rest.take (rest.length - behind.length) ++ more)
    let goOn (text : List Char) (rest : List Char) : List Char × Option String :=
      let (more, fault) := formatted s escapes fuel rest
      (text ++ more, fault)
    match behind with
    | [] => if bare then (['%'], none) else ([], some (directive []))
    | '%' :: behind => if bare then goOn ['%'] behind else ([], some (directive ['%']))
    | letter :: behind =>
      let precision := slot.precision.map (min widest)
      let slot := { slot with width := min slot.width widest, precision }
      let wide : Bool := (letter = 'H' ∨ letter = 'L') ∧
        (behind.head? = some 'd' ∨ behind.head? = some 'r')
      if wide then goOn ((Fact.number 0).fill slot) (behind.drop 1)
      else goOn ((factOf s letter).fill slot) behind
  | fuel + 1, '\\' :: rest =>
    if escapes then
      let (escaped, rest) := match rest with
        | [] => (['\\'], [])
        | 'c' :: rest => (['c'], rest)
        | c :: rest =>
          match Escaped.read .format (c :: rest) with
          | (.text ('\\' :: _ :: _), _) => ([c], rest)
          | (.text cs, rest) => (cs, rest)
          | _ => ([c], rest)
      let (more, fault) := formatted s escapes fuel rest
      (escaped ++ more, fault)
    else
      let (more, fault) := formatted s escapes fuel rest
      ('\\' :: more, fault)
  | fuel + 1, c :: rest =>
    let (more, fault) := formatted s escapes fuel rest
    (c :: more, fault)

def usual (s : Subject) : String :=
  let first := match s.entry with
    | .device _ => "  File: %N\n  Size: %-10s\tBlocks: %-10b IO Block: %-6o %F\n" ++
        "Device: %Hd,%Ld\tInode: %-10i  Links: %-5h Device type: %t,%T\n"
    | _ => "  File: %N\n  Size: %-10s\tBlocks: %-10b IO Block: %-6o %F\n" ++
        "Device: %Hd,%Ld\tInode: %-10i  Links: %h\n"
  first ++ "Access: (%04a/%10.10A)  Uid: (%5u/%8U)   Gid: (%5g/%8G)\n" ++
    "Access: %x\nModify: %y\nChange: %z\n Birth: %w\n"

def terse : String := "%n %s %b %f %u %g %D %i %h %t %T %X %Y %Z %W %o\n"

/-- A format, what is written behind it, and whether it has escapes. -/
structure Format where
  text : String
  ending : String
  escapes : Bool

def given? (o : Options) : Option Format :=
  match o.last? ["c", "printf"] with
  | some ("printf", some text) => some ⟨text, "", true⟩
  | some (_, some text) => some ⟨text, "\n", false⟩
  | _ => none

def formatOf (o : Options) (s : Subject) : Format :=
  (given? o).getD ⟨if o.has "t" then terse else usual s, "", false⟩

/-- Whether a text asks for names as reports show them. -/
def asksForName : List Char → Bool
  | '%' :: 'N' :: _ => true
  | _ :: rest => asksForName rest
  | [] => false

/-- What stands at a name. The name of the input stands for a device, as an input that is a file
cannot be told from it. -/
def subject? (follows quotes : Bool) (w : World) (name : String) : Except FileFault Subject :=
  let found (l : Location) (e : Entry) : Except FileFault Subject :=
    .ok ⟨name, quotes, w.files, l, e⟩
  if name = "-" then found [] (.device .null)
  else
    match w.followFrom follows name with
    | .error fault => .error fault
    | .ok (.free _) => .error .notFound
    | .ok (.folder place) =>
      if place.lost = 0 then found place.path ((w.files.get? place.path).getD .usualFolder)
      else .error .notFound
    | .ok (.file l f) => found l (.file f)
    | .ok (.device l d) => found l (.device d)
    | .ok (.link l target) => if follows then .error .tooManyLinks else found l (.link target)

def statOne (o : Options) (name : String) (p : Progress) : Progress :=
  let quotes := ((given? o).map fun f => asksForName f.text.toList).getD true
  match subject? (o.has "L") quotes p.world name with
  | .error fault => p.fault s!"cannot statx {Naming.always name}" fault
  | .ok s =>
    let f := formatOf o s
    let (text, fault) :=
      formatted s f.escapes (f.text.length + 1) ((bytesOf f.text).map Naming.charOf)
    let context := f.text.toList.zip (f.text.toList.drop 1) |>.contains ('%', 'C')
    let p := if context then
        p.complain s!"failed to get security context of {Naming.always name}: No data available"
      else p
    p.write (charBytes text ++ if fault.isNone then ofText f.ending else .empty)

/-- The directive that breaks off every format, whatever it is about. -/
def fault? (o : Options) : Option String := do
  let f ← given? o
  let nothing := ⟨"", false, .ofEntries [], [], .device .null⟩
  (formatted nothing f.escapes (f.text.length + 1) f.text.toList).2

def stat : Tool :=
  .withOptions (.of "c:fLt" ["dereference L", "file-system f", "format= c", "printf=", "terse t",
    "cached="]) 1 fun o job w =>
    match o.operands, fault? o with
    | [], _ => (Tool.misused job "missing operand" 1, w)
    | first :: _, some directive =>
      let p := statOne o first (.start job w)
      if p.status = 0 then
        (p.complain s!"{Naming.literal directive}: invalid directive").finish
      else p.finish
    | operands, none => (operands.foldl (fun p name => statOne o name p) (.start job w)).finish

end CommandShell.Facts
