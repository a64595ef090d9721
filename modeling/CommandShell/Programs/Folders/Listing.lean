import CommandShell.Programs.Folders.Details
import CommandShell.Programs.Folders.Targets
import CommandShell.Programs.Amount
import CommandShell.Programs.Glob
import CommandShell.Programs.Number.Version
import CommandShell.Programs.Sources

/-!
# Listing folders

The names in folders, in an order, with marks for what they stand for, and laid out one to a line,
in a row, or in columns.
-/
namespace CommandShell.Listing
open NameText Bytes

/-- Which names are shown. -/
inductive Shown
  | usual
  | almostAll
  | all
  deriving DecidableEq

/-- Which entries get a mark behind their name. -/
inductive Marks
  | none
  | folders
  | kinds
  | kindsAndRunnable
  deriving DecidableEq

inductive Sorting
  | name
  | size
  | version
  | extension
  | width
  deriving DecidableEq

inductive Layout
  | lines
  | commas
  | down
  | across
  /-- One line for each entry, with details. -/
  | details
  deriving DecidableEq

/-- How names are written. -/
inductive Quoting
  | plain
  | masked
  | escaped
  | quoted
  | scriptIfNeeded
  | scriptAlways
  deriving DecidableEq

/-- What is shown of an entry in front of its name. -/
structure Columns where
  owner : Bool
  group : Bool
  author : Bool
  /-- Whether owners are shown by their numbers. -/
  numbers : Bool
  time : String

structure Manner where
  columns : Columns
  /-- Whether the room that an entry takes is shown. -/
  room : Bool
  /-- How sizes are shown. -/
  sizes : Details.Scale
  /-- How the room that is taken is shown. -/
  rooms : Details.Scale
  shown : Shown
  marks : Marks
  sorting : Sorting
  reversed : Bool
  layout : Layout
  quoting : Quoting
  width : Nat
  ending : UInt8
  entries : Bool
  recursive : Bool
  followAll : Bool
  followOperands : Bool
  /-- Whether links among the operands are followed only to folders. -/
  followToFolders : Bool
  foldersFirst : Bool
  ignored : List (List GlobItem)

/-- A name in a listing and what stands there. -/
structure Item where
  name : String
  location : Location
  entry : Entry
  /-- What a link leads to. -/
  beyond : Option Entry

/-! ## Names -/

/-- The escape of a byte in the manner of a quoted text. -/
def escapeByte (quote : Bool) (b : UInt8) : List UInt8 :=
  if b = 92 then [92, 92]
  else if quote && b = 34 then [92, 34]
  else if !quote && b = 32 then [92, 32]
  else if Naming.shows b then [b]
  else bytesOf (Naming.escapeOf b)

def Manner.nameBytes (m : Manner) (name : String) : List UInt8 :=
  let bytes := bytesOf name
  match m.quoting with
  | .plain => bytes
  | .masked => bytes.map fun b => if Naming.shows b then b else 63
  | .escaped => bytes.flatMap (escapeByte false)
  | .quoted => [34] ++ bytes.flatMap (escapeByte true) ++ [34]
  | .scriptIfNeeded =>
    if Naming.needsQuotes false bytes then bytesOf (Naming.always name)
    else bytes
  | .scriptAlways => bytesOf (Naming.always name)

def markOf (m : Marks) (i : Item) : List UInt8 :=
  match m, i.entry with
  | .none, _ => []
  | _, .folder _ => [47]
  | .folders, _ => []
  | _, .link _ => [64]
  | .kindsAndRunnable, .file f => if f.runnable then [42] else []
  | _, _ => []

def Manner.itemBytes (m : Manner) (i : Item) : List UInt8 :=
  m.nameBytes i.name ++ markOf m.marks i

/-- The columns that bytes take; what does not show takes none. -/
def columnsOf (bytes : List UInt8) : Nat := (bytes.filter Naming.shows).length

/-! ## Orders -/

/-- The ending of a name, from its last dot on. -/
def endingOf (name : String) : List UInt8 :=
  let back := (bytesOf name).reverse
  let ending := back.takeWhile (· != 46)
  if ending.length = back.length then [] else (46 :: ending.reverse)

def nameOrder (a b : Item) : Ordering := compare a.name b.name

def Sorting.order (s : Sorting) (a b : Item) : Ordering :=
  match s with
  | .name => nameOrder a b
  | .size => (compare (Details.size b.entry) (Details.size a.entry)).then (nameOrder a b)
  | .version => (Version.order (bytesOf a.name) (bytesOf b.name)).then (nameOrder a b)
  | .extension =>
    (compare ((endingOf a.name).map UInt8.toNat) ((endingOf b.name).map UInt8.toNat)).then
      (nameOrder a b)
  | .width =>
    (compare (columnsOf (bytesOf a.name)) (columnsOf (bytesOf b.name))).then (nameOrder a b)

/-- Whether an item is a folder, or a link that leads to one. -/
def Item.leadsToFolder (i : Item) : Bool :=
  match i.entry, i.beyond with
  | .folder _, _ => true
  | .link _, some (.folder _) => true
  | _, _ => false

def Manner.sorted (m : Manner) (items : List Item) : List Item :=
  let ordered := items.mergeSort fun a b => m.sorting.order a b != .gt
  let ordered := if m.reversed then ordered.reverse else ordered
  if m.foldersFirst then
    ordered.filter Item.leadsToFolder ++ ordered.filter (!·.leadsToFolder)
  else ordered

/-! ## Layouts -/

/-- Fills the gap between two columns with tab stops and blanks; `fuel` bounds the steps. -/
def gap : Nat → Nat → Nat → List UInt8
  | 0, _, _ => []
  | fuel + 1, column, goal =>
    if goal ≤ column then []
    else if (column + 1) / 8 < goal / 8 then 9 :: gap fuel (column + (8 - column % 8)) goal
    else 32 :: gap fuel (column + 1) goal

/-- The widths of columns when lengths are laid out in so many of them. -/
def columnWidths (down : Bool) (count : Nat) (lengths : List Nat) : List Nat :=
  let rows := (lengths.length + count - 1) / count
  lengths.zipIdx.foldl (fun (widths : Array Nat) (e : Nat × Nat) =>
    let column := if down then e.2 / rows else e.2 % count
    let needed := e.1 + if column + 1 = count then 0 else 2
    widths.modify column (max needed)) (Array.replicate count 3) |>.toList

def columnCount (down : Bool) (width : Nat) (lengths : List Nat) : Nat :=
  let most := min (width / 3 + if width % 3 = 0 then 0 else 1) lengths.length
  let fits (count : Nat) : Bool := (columnWidths down count lengths).foldl (· + ·) 0 < width
  (((List.range' 2 (most - 1)).reverse).find? fits).getD 1

/-- One row of cells, each with the width of its column. -/
def rowBytes (cells : List (List UInt8 × Nat)) : List UInt8 :=
  let rec go (at_ : Nat) : List (List UInt8 × Nat) → List UInt8
    | [] => []
    | [(cell, _)] => cell
    | (cell, width) :: rest =>
      let length := columnsOf cell
      cell ++ gap (width + 8) (at_ + length) (at_ + width) ++ go (at_ + width) rest
  go 0 cells

def inColumns (down : Bool) (width : Nat) (cells : List (List UInt8)) : List (List UInt8) :=
  let lengths := cells.map columnsOf
  let count := columnCount down width lengths
  let widths := columnWidths down count lengths
  let rows := (cells.length + count - 1) / count
  (List.range rows).map fun r =>
    let places := if down then (List.range count).map fun c => c * rows + r
      else (List.range count).map fun c => r * count + c
    rowBytes ((places.zip widths).filterMap fun e => cells[e.1]?.map fun cell => (cell, e.2))

def inRow (width : Nat) (cells : List (List UInt8)) : List UInt8 :=
  (cells.foldl (fun (out, at_, first) cell =>
    let length := columnsOf cell
    if first then (out ++ cell, length, false)
    else if width = 0 ∨ at_ + length + 2 < width then
      (out ++ [44, 32] ++ cell, at_ + 2 + length, false)
    else (out ++ [44, 10] ++ cell, length, false)) (([] : List UInt8), 0, true)).1

/-! ## Details -/

/-- The room that entries take, as it is shown. -/
def Manner.roomText (m : Manner) (entries : List Entry) : String :=
  m.rooms.text ((entries.map Details.room).foldl (· + ·) 0)

def widthOf (texts : List String) : Nat := (texts.map String.length).foldl max 0

def rightAligned (width : Nat) (text : String) : String :=
  String.ofList (List.replicate (width - text.length) ' ') ++ text

/-- The name behind the details, with what a link leads to. -/
def Manner.detailedName (m : Manner) (i : Item) : List UInt8 :=
  match i.entry with
  | .link target =>
    m.nameBytes i.name ++ bytesOf " -> " ++ m.nameBytes target ++
      match m.marks, i.beyond with
      | .folders, _ => []
      | _, some e => markOf m.marks { i with entry := e }
      | _, none => []
  | _ => m.itemBytes i

/-- The number of names of an item, as it is shown. -/
def namesText (t : FileTree) (i : Item) : String := toString (Details.names t i.location i.entry)

/-- The size of an item, or the numbers of a device. -/
def Manner.itemSize (m : Manner) (i : Item) : String :=
  match i.entry with
  | .device d => s!"{(Details.deviceNumbers d).1}, {(Details.deviceNumbers d).2}"
  | e => m.sizes.text (Details.size e)

/-- The details of entries, in columns that are wide enough for all of `others` too. -/
def Manner.details (m : Manner) (t : FileTree) (others items : List Item) : List (List UInt8) :=
  let c := m.columns
  let user := if c.numbers then "0" else "root"
  let owners := (if c.owner then [user] else []) ++ (if c.group then [user] else []) ++
    (if c.author then [user] else [])
  let namesWidth := widthOf ((others ++ items).map (namesText t))
  let sizeWidth := widthOf ((others ++ items).map m.itemSize)
  items.map fun i =>
    let texts := [Details.modeText i.entry, rightAligned namesWidth (namesText t i)] ++ owners ++
      [rightAligned sizeWidth (m.itemSize i), c.time]
    bytesOf (" ".intercalate texts ++ " ") ++ m.detailedName i

/-- The bytes of a listing, with columns that are wide enough for others too. -/
def Manner.blockBeside (m : Manner) (t : FileTree) (others items : List Item) : List UInt8 :=
  let cells := if m.layout = .details then m.details t others items else items.map m.itemBytes
  let cells := if m.room then
      let width := if m.layout = .commas then 0
        else widthOf ((others ++ items).map fun i => m.roomText [i.entry])
      (items.zip cells).map fun e =>
        bytesOf (rightAligned width (m.roomText [e.1.entry]) ++ " ") ++ e.2
    else cells
  if cells = [] then []
  else
    match m.layout with
    | .lines => cells.flatMap (· ++ [m.ending])
    | .details => cells.flatMap (· ++ [m.ending])
    | .commas => inRow m.width cells ++ [m.ending]
    | layout =>
      if m.width = 0 then [32, 32].intercalate cells ++ [m.ending]
      else (inColumns (layout = .down) m.width cells).flatMap (· ++ [m.ending])

def Manner.block (m : Manner) (t : FileTree) (items : List Item) : List UInt8 :=
  m.blockBeside t [] items

def Manner.folderBlock (m : Manner) (t : FileTree) (items : List Item) : List UInt8 :=
  let total := if m.room || m.layout = .details then
      bytesOf ("total " ++ m.roomText (items.map Item.entry)) ++ [m.ending]
    else []
  total ++ m.block t items

/-! ## Folders -/

def Manner.ignores (m : Manner) (name : String) : Bool :=
  m.ignored.any fun pattern => Glob.accepts pattern (byteChars name)

/-- Whether a name is shown; a name that starts with a dot is shown only on request. -/
def Manner.shows (m : Manner) (name : String) : Bool :=
  (m.shown != .usual || !name.startsWith ".") && !m.ignores name

/-- The folder, the file or the device at a spot. -/
def entryAt (w : World) (spot : Except FileFault Spot) : Option Entry :=
  match spot with
  | .ok (.folder place) => w.files.get? place.path
  | .ok (.file _ f) => some (.file f)
  | .ok (.device _ d) => some (.device d)
  | _ => none

def itemAt (w : World) (folder : Place) (name : String) : Option Item :=
  (w.files.get? (folder.path ++ [name])).map fun e =>
    ⟨name, folder.path ++ [name], e, entryAt w (w.files.find true (mostLinks + 1) folder [name])⟩

/-- What is seen of an item where links are followed. -/
def Manner.seen (m : Manner) (i : Item) : Item :=
  match m.followAll, i.beyond with
  | true, some e => { i with entry := e }
  | _, _ => i

/-- The items of a folder, in order. -/
def Manner.itemsOf (m : Manner) (w : World) (place : Place) : List Item :=
  let names := if place.lost = 0 then w.files.names place.path else []
  let found := (names.filter m.shows).filterMap (itemAt w place)
  let dot (name : String) (l : Location) : Item :=
    ⟨name, l, (w.files.get? l).getD .usualFolder, none⟩
  let dots := if m.shown = .all then [dot "." place.path, dot ".." place.path.dropLast] else []
  m.sorted ((dots.filter fun i => !m.ignores i.name) ++ found.map m.seen)

/-- A folder, and the folders in it if they are asked for, as blocks under their names. -/
def Manner.folderBlocks (m : Manner) (w : World) : Nat → String → Place → List (String × List UInt8)
  | 0, _, _ => []
  | fuel + 1, shown, place =>
    let items := m.itemsOf w place
    let deeper := if m.recursive then
        items.filter fun i => i.name != "." && i.name != ".." && (match i.entry with
          | .folder _ => true
          | _ => false)
      else []
    (shown, m.folderBlock w.files items) ::
      deeper.flatMap fun i =>
        m.folderBlocks w fuel (joined shown i.name) ⟨place.path ++ [i.name], 0⟩

/-! ## The tool -/

/-- An operand as an item, or as a folder to list. -/
inductive Operand
  | item (i : Item)
  | folder (shown : String) (place : Place)
  | missing (report : String)

def Manner.operand (m : Manner) (w : World) (name : String) : Operand :=
  let item (l : Location) (e : Entry) : Operand := .item ⟨name, l, e, entryAt w (w.follow name)⟩
  let followsFiles : Bool := m.followAll || (m.followOperands && !m.followToFolders)
  match w.followFrom (m.followAll || m.followOperands) name, w.sight name with
  | .ok (.folder place), .ok (.link l target) =>
    if !m.entries then .folder name place
    else if followsFiles then item place.path ((w.files.get? place.path).getD .usualFolder)
    else item l (.link target)
  | .ok (.folder place), _ =>
    if m.entries then item place.path ((w.files.get? place.path).getD .usualFolder)
    else .folder name place
  | .ok (.file k f), .ok (.link l target) =>
    if followsFiles then item k (.file f) else item l (.link target)
  | .ok (.file l f), _ => item l (.file f)
  | .ok (.device l d), _ => item l (.device d)
  | .ok (.link l target), _ => item l (.link target)
  | .ok (.free _), .ok (.link l target) => item l (.link target)
  | .ok (.free _), _ =>
    .missing s!"cannot access {Naming.always name}: {FileFault.notFound.wording}"
  | .error f, _ => .missing s!"cannot access {Naming.always name}: {f.wording}"

/-- Lists operands: first what is no folder, then the folders. -/
def Manner.list (m : Manner) (w : World) (names : List String) : List String × ByteArray :=
  let found := names.map (m.operand w)
  let items := m.sorted (found.filterMap fun
    | .item i => some i
    | _ => none)
  let folders := found.filterMap fun
    | .folder shown place => some (shown, place)
    | _ => none
  let reports := found.filterMap fun
    | .missing report => some report
    | _ => none
  let ordered := (m.sorted (folders.map fun e => ⟨e.1, [], .usualFolder, none⟩)).filterMap fun i =>
    folders.find? fun e => e.1 = i.name
  let blocks := ordered.flatMap fun e =>
    m.folderBlocks w (w.files.entries.length + 1) e.1 e.2
  let titled := m.recursive || 1 < names.length
  let title (name : String) : List UInt8 :=
    if titled then m.nameBytes name ++ bytesOf ":\n" else []
  let texts := blocks.map fun b => title b.1 ++ b.2
  let all := if items = [] then texts else m.blockBeside w.files (folders.map fun e =>
    ⟨e.1, e.2.path, (w.files.get? e.2.path).getD .usualFolder, none⟩) items :: texts
  (reports, join (all.intersperse [lineFeed]))

def table : OptionTable :=
  .of "abcdfghiklmnopqrstuvw:xABCDFGHI:LNQRST:UXZ1" ["all a", "almost-all A", "escape b",
    "ignore-backups B", "directory d", "classify[=] F", "file-type", "full-time",
    "group-directories-first", "human-readable h", "hide=", "ignore= I", "indicator-style=",
    "inode i", "kibibytes k", "dereference L", "dereference-command-line H",
    "dereference-command-line-symlink-to-dir", "literal N", "numeric-uid-gid n", "quote-name Q",
    "quoting-style=", "hide-control-chars q", "show-control-chars", "recursive R", "reverse r",
    "size s", "sort=", "format=", "time=", "time-style=", "tabsize= T", "width= w", "zero",
    "color[=]", "hyperlink[=]", "author", "block-size=", "no-group G", "si", "context Z"]

def marksOf (o : Options) : Marks :=
  match o.last? ["p", "F", "file-type", "indicator-style"] with
  | some ("p", _) => .folders
  | some ("F", some word) => if word ∈ ["never", "no", "none", "auto", "tty", "if-tty"] then .none
    else .kindsAndRunnable
  | some ("F", none) => .kindsAndRunnable
  | some ("file-type", _) => .kinds
  | some (_, some "slash") => .folders
  | some (_, some "file-type") => .kinds
  | some (_, some "classify") => .kindsAndRunnable
  | _ => .none

def sortingOf (o : Options) : Sorting :=
  match o.last? ["S", "v", "X", "U", "f", "t", "sort"] with
  | some ("S", _) => .size
  | some ("v", _) => .version
  | some ("X", _) => .extension
  | some (_, some "size") => .size
  | some (_, some "version") => .version
  | some (_, some "extension") => .extension
  | some (_, some "width") => .width
  | _ => .name

/-- The layout that options ask for; one name to a line is no change where details are shown. -/
def layoutOf (usual : Layout) (o : Options) : Layout :=
  let single (l : Layout) : Layout := if l = .details then l else .lines
  o.given.foldl (fun l g =>
    match g.1, g.2 with
    | "1", _ => single l
    | "zero", _ => single l
    | "m", _ => .commas
    | "C", _ => .down
    | "x", _ => .across
    | "format", some "commas" => .commas
    | "format", some "vertical" => .down
    | "format", some "across" => .across
    | "format", some "horizontal" => .across
    | "format", some "single-column" => .lines
    | "format", some _ => .details
    | key, _ => if ["l", "g", "n", "o", "full-time"].contains key then .details else l) usual

/-- What is shown in front of names, if details are. -/
def columnsOfOptions (o : Options) : Columns :=
  { owner := !o.has "g"
    group := !o.hasAny ["o", "G"]
    author := o.has "author"
    numbers := o.has "n"
    time := match (o.value? "time-style").map String.toList with
      | some ('+' :: format) => String.ofList format
      | _ => Details.timeText }

def quotingOf (o : Options) : Quoting :=
  match o.last? ["b", "N", "Q", "quoting-style"] with
  | some ("b", _) => .escaped
  | some ("Q", _) => .quoted
  | some (_, some "escape") => .escaped
  | some (_, some "c") => .quoted
  | some (_, some "c-maybe") => .quoted
  | some (_, some "locale") => .scriptAlways
  | some (_, some "shell") => .scriptIfNeeded
  | some (_, some "shell-escape") => .scriptIfNeeded
  | some (_, some "shell-always") => .scriptAlways
  | some (_, some "shell-escape-always") => .scriptAlways
  | _ => if o.has "q" then .masked else .plain

/-- How sizes are shown, if options say something about it. -/
def scaleOf? (o : Options) : Option Details.Scale :=
  match o.last? ["h", "si", "block-size"] with
  | some ("h", _) => some (.growing 1024)
  | some ("si", _) => some (.growing 1000)
  | some (_, some text) => (Details.Scale.read text).toOption
  | _ => none

def wrongScale? (o : Options) : Option String :=
  (o.values "block-size").findSome? fun text =>
    match Details.Scale.read text with
    | .ok _ => none
    | .error .tooLarge => some s!"--block-size argument {Naming.literal text} too large"
    | .error _ => some s!"invalid --block-size argument {Naming.literal text}"

def mannerOf (usual : Layout) (columns : Option String) (o : Options) : Manner :=
  let zero := o.has "zero"
  let scale? := scaleOf? o
  let pattern (text : String) : List GlobItem :=
    Glob.read true ((byteChars text).map fun c => (c, false))
  let shown : Shown := match o.lastKey? ["a", "A", "f"] with
    | some "A" => .almostAll
    | some _ => .all
    | none => .usual
  let backups := if o.has "B" then [pattern "*~", pattern ".*~"] else []
  let hidden := if shown = .usual then o.values "hide" else []
  let marks := marksOf o
  let layout := layoutOf usual o
  { columns := columnsOfOptions o
    room := o.has "s"
    sizes := scale?.getD (.steady 1 "")
    rooms := scale?.getD (.steady 1024 "")
    shown
    marks
    sorting := sortingOf o
    reversed := o.has "r"
    layout
    quoting := if zero then .plain else quotingOf o
    width := match (o.value? "w").bind Amount.whole? with
      | some n => n.toNat
      | none => match columns.bind Amount.whole? with
        | some n => if n ≤ 0 then 80 else n.toNat
        | none => 80
    ending := if zero then 0 else lineFeed
    entries := o.has "d"
    recursive := o.has "R" && !o.has "d"
    followAll := o.has "L"
    followOperands := o.has "H" ||
      !(o.has "d" || marks = .kindsAndRunnable || layout = .details)
    followToFolders := !o.has "H"
    foldersFirst := o.has "group-directories-first"
    ignored := (o.values "I" ++ hidden).map pattern ++ backups }

def choices : List (String × List String) :=
  [("sort", ["none", "time", "size", "extension", "version", "width", "name"]),
    ("format", ["verbose", "long", "commas", "horizontal", "across", "vertical", "single-column"]),
    ("indicator-style", ["none", "slash", "file-type", "classify"]),
    ("quoting-style", ["literal", "shell", "shell-always", "shell-escape", "shell-escape-always",
      "c", "c-maybe", "escape", "locale", "clocale"])]

/-- An option with a word that it does not take. -/
def wrongChoice? (o : Options) : Option String :=
  choices.findSome? fun e =>
    ((o.values e.1).find? (!e.2.contains ·)).map fun word =>
      s!"invalid argument {Naming.always word} for '--{e.1}'"

def listWith (usual : Layout) : Tool := .withOptions table 2 fun o job w =>
  match wrongChoice? o with
  | some message => (Tool.misused job message 1, w)
  | none =>
    let tooLarge (text : String) : Bool := match Amount.within 0 Amount.largestSigned "" text with
      | .ok _ => false
      | .error _ => true
    match (o.values "w").find? fun text => (Amount.read? "" text).isNone,
      (o.values "T").find? tooLarge, wrongScale? o with
    | _, _, some message => (Tool.failing job message 2, w)
    | some text, _, _ => (Tool.failing job s!"invalid line width: {Naming.literal text}" 2, w)
    | none, some text, _ => (Tool.failing job s!"invalid tab size: {Naming.literal text}" 2, w)
    | none, none, _ =>
      let m := mannerOf usual (job.environment.lookup "COLUMNS") o
      let names := if o.operands = [] then ["."] else o.operands
      let (reports, output) := m.list w names
      (.of (reports.map fun r => s!"{job.name}: {r}") output (if reports = [] then 0 else 2)
        job.input.bytes, w)

def ls : Tool := listWith .lines

/-- The form of `ls` that shows details and every byte. -/
def vdir : Tool := fun job w => listWith .details { job with args := "-b" :: job.args } w

/-- The form of `ls` that lists in columns and shows every byte. -/
def dir : Tool := fun job w => listWith .down { job with args := "-b" :: job.args } w

end CommandShell.Listing
