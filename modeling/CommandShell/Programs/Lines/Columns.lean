import CommandShell.Programs.Lines.Sorting

/-!
# Columns of lines

The tools that keep some bytes or fields of every line, and that put lines beside one another.
-/
namespace CommandShell.Columns
open Bytes Sorting

/-! ## Keeping -/

/-- A stretch of positions, counted from one; it may have no end. -/
structure Stretch where
  first : Nat
  last : Option Nat
  deriving DecidableEq, Repr

def Stretch.holds (s : Stretch) (i : Nat) : Bool :=
  s.first ≤ i && match s.last with
    | none => true
    | some last => i ≤ last

/-- What is kept: bytes or fields, for the wording of complaints. -/
inductive Counted
  | bytes
  | fields
  deriving DecidableEq

def positionWording : Counted → String
  | .bytes => "byte/character positions are numbered from 1"
  | .fields => "fields are numbered from 1"

def valueWording : Counted → String
  | .bytes => "invalid byte/character position"
  | .fields => "invalid field value"

def rangeWording : Counted → String
  | .bytes => "invalid byte or character range"
  | .fields => "invalid field range"

def largeWording (u : Counted) (text : String) : String :=
  match u with
  | .bytes => s!"byte/character offset {Naming.literal text} is too large"
  | .fields => s!"field number {Naming.literal text} is too large"

/-- Reads one stretch: a position, two with a hyphen between them, or a half of that. -/
def Stretch.read (u : Counted) (cs : List Char) : Except String Stretch :=
  let number (ds : List Char) : Except String Nat :=
    if Amount.isDigits ds then
      if readDigits ds = 0 then .error (positionWording u)
      else if Amount.largest ≤ readDigits ds then .error (largeWording u (String.ofList ds))
      else .ok (readDigits ds)
    else .error (valueWording u ++ " " ++ Naming.literal (String.ofList ds))
  match cs.splitOn '-' with
  | [[]] => .error (positionWording u)
  | [only] => do
    let n ← number only
    return ⟨n, some n⟩
  | [[], []] => .error "invalid range with no endpoint: -"
  | [[], last] => do return ⟨1, some (← number last)⟩
  | [first, []] => do return ⟨← number first, none⟩
  | [first, last] => do
    let a ← number first
    let b ← number last
    if b < a then throw "invalid decreasing range" else return ⟨a, some b⟩
  | _ => .error (rangeWording u)

def Stretch.readAll (u : Counted) (text : String) : Except String (List Stretch) :=
  (text.toList.map fun c => if c = ' ' ∨ c = '\t' then ',' else c).splitOn ','
    |>.mapM (Stretch.read u)

/-- Stretches in increasing order, those that overlap put together. -/
def merged (stretches : List Stretch) : List Stretch :=
  let ordered := stretches.mergeSort fun a b => a.first ≤ b.first
  (ordered.foldl (fun (done : List Stretch) s =>
    match done with
    | [] => [s]
    | last :: rest =>
      if last.holds s.first then
        let stop := match last.last, s.last with
          | some a, some b => some (max a b)
          | _, _ => none
        ⟨last.first, stop⟩ :: rest
      else s :: last :: rest) []).reverse

def complement (stretches : List Stretch) : List Stretch :=
  let rec go (start : Nat) : List Stretch → List Stretch
    | [] => [⟨start, none⟩]
    | s :: rest =>
      let gap := if start < s.first then [(⟨start, some (s.first - 1)⟩ : Stretch)] else []
      match s.last with
      | none => gap
      | some last => gap ++ go (last + 1) rest
  go 1 stretches

/-- The items of a line in each of the stretches. -/
def parts {α : Type} (stretches : List Stretch) (items : List α) : List (List α) :=
  stretches.filterMap fun s =>
    let rest := items.drop (s.first - 1)
    let part := match s.last with
      | none => rest
      | some last => rest.take (last + 1 - s.first)
    if part.isEmpty then none else some part

structure Cutting where
  stretches : List Stretch
  fields : Bool
  delimiter : UInt8
  between : Option (List UInt8)
  onlyDelimited : Bool

def Cutting.cut (c : Cutting) (line : List UInt8) : Option (List UInt8) :=
  if c.fields then
    match line.splitOn c.delimiter with
    | [_] => if c.onlyDelimited then none else some line
    | pieces =>
      some (List.intercalate (c.between.getD [c.delimiter]) (parts c.stretches pieces).flatten)
  else some (List.intercalate (c.between.getD []) (parts c.stretches line))

def cuttingOf (o : Options) : Except String Cutting := do
  match o.given.filter fun g => ["b", "c", "f"].contains g.1 with
  | [] => throw "you must specify a list of bytes, characters, or fields"
  | [(key, value)] =>
    let fields := key = "f"
    let delimiter ← match o.value? "d" with
      | none => pure 9
      | some text =>
        if !fields then throw "an input delimiter may be specified only when operating on fields"
        else
          match bytesOf text with
          | [] => pure 0
          | [b] => pure b
          | _ => throw "the delimiter must be a single character"
    if o.has "s" ∧ !fields then
      throw "suppressing non-delimited lines makes sense\n\tonly when operating on fields"
    else
      let stretches ← Stretch.readAll (if fields then .fields else .bytes) (value.getD "")
      let stretches := merged stretches
      let stretches := if o.has "complement" then complement stretches else stretches
      return ⟨stretches, fields, delimiter, (o.value? "output-delimiter").map fun text =>
        if text = "" then [0] else bytesOf text, o.has "s"⟩
  | _ => throw "only one list may be specified"

def cut : Tool :=
  .reader (.of "b:c:d:f:nsz" ["bytes= b", "characters= c", "fields= f", "delimiter= d",
    "only-delimited s", "output-delimiter=", "complement", "zero-terminated z"]) 1
  fun o job sources =>
    match cuttingOf o with
    | .error complaint => ⟨Tool.usageReports job.name complaint, .empty, 1⟩
    | .ok c =>
      let zero := o.has "z"
      let rows := (Source.found sources).flatMap fun e => (linesOf zero e.2).filterMap c.cut
      ⟨Source.complaints job.name sources, linesWith zero rows, Source.status sources⟩

/-! ## Side by side -/

/-- Reads a list of delimiters, some of which may be empty. -/
def delimitersOf : List Char → List (List UInt8)
  | [] => []
  | '\\' :: c :: rest =>
    let d := match c with
      | '0' => []
      | 'b' => [8]
      | 'f' => [12]
      | 'n' => [10]
      | 'r' => [13]
      | 't' => [9]
      | 'v' => [11]
      | c => bytesOf c.toString
    d :: delimitersOf rest
  | c :: rest => (bytesOf c.toString).map ([·]) ++ delimitersOf rest

/-- The delimiter at a position; delimiters are used over and over. -/
def delimiterAt (ds : List (List UInt8)) (i : Nat) : List UInt8 :=
  if ds = [] then [] else ds.getD (i % ds.length) []

def glued (ds : List (List UInt8)) (cells : List (List UInt8)) : List UInt8 :=
  (cells.zipIdx.map fun e => (if e.2 = 0 then [] else delimiterAt ds (e.2 - 1)) ++ e.1).flatten

/-- Where a column takes its lines: from lines of its own, or from those of the input, which are
shared. -/
abbrev ColumnSource := Option (List (List UInt8))

def takeRow : List ColumnSource → List (List UInt8) →
    List (Option (List UInt8)) × List ColumnSource × List (List UInt8)
  | [], shared => ([], [], shared)
  | none :: rest, shared =>
    let (cells, columns, left) := takeRow rest (shared.drop 1)
    (shared.head? :: cells, none :: columns, left)
  | some lines :: rest, shared =>
    let (cells, columns, left) := takeRow rest shared
    (lines.head? :: cells, some (lines.drop 1) :: columns, left)

def pasteRows (ds : List (List UInt8)) : Nat → List ColumnSource → List (List UInt8) →
    List (List UInt8)
  | 0, _, _ => []
  | fuel + 1, columns, shared =>
    let (cells, columns, shared) := takeRow columns shared
    if cells.all Option.isNone then []
    else glued ds (cells.map (·.getD [])) :: pasteRows ds fuel columns shared

def pasteWith (o : Options) : Tool := fun job w =>
  let zero := o.has "z"
  let ds := match o.value? "d" with
    | none => [[9]]
    | some text => delimitersOf text.toList
  let operands := Tool.operandsOrInput o.operands
  let sources := Source.ofOperands w job.input operands
  let unread := Tool.leftOver job operands
  let complaints := Source.complaints job.name sources
  if o.has "s" then
    let rows := (Source.found sources).map fun e => glued ds (linesOf zero e.2)
    (.of complaints (linesWith zero rows) (Source.status sources) unread, w)
  else if sources.any (·.isMissing) then (.of (complaints.take 1) .empty 1 unread, w)
  else
    let columns : List ColumnSource := sources.map fun s =>
      if Source.isInput s.name then none
      else some (linesOf zero (s.contents.toOption.getD .empty))
    let shared := linesOf zero job.input.bytes
    let fuel := (columns.map fun c => (c.getD []).length).foldl (· + ·) shared.length + 1
    (.of complaints (linesWith zero (pasteRows ds fuel columns shared)) (Source.status sources)
      unread, w)

def paste : Tool :=
  .withOptions (.of "d:sz" ["delimiters= d", "serial s", "zero-terminated z"]) 1 pasteWith

end CommandShell.Columns
