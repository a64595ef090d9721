import CommandShell.Programs.Amount
import CommandShell.Programs.Lines.Sorting
import CommandShell.Text.Aligned

/-!
# Lines that agree

The tools that look at neighbours in one text, or at lines of two sorted texts, that agree.
-/
namespace CommandShell.Neighbours
open Bytes Sorting

/-! ## Neighbours in one text -/

/-- How groups of lines are set apart. -/
inductive Grouping
  | none
  | before
  | between
  | after
  | around
  deriving DecidableEq

/-- What is looked at of a line, and what is shown of a group of lines that agree. -/
structure Selection where
  skipFields : Nat
  skipBytes : Nat
  width : Option Nat
  folds : Bool
  counts : Bool
  singles : Bool
  firsts : Bool
  others : Bool
  grouping : Grouping
  wholeGroups : Bool

def Selection.key (s : Selection) (line : List UInt8) : List UInt8 :=
  let rest := (Sorting.skipFields none s.skipFields line).drop s.skipBytes
  let part := match s.width with
    | none => rest
    | some n => rest.take n
  if s.folds then part.map toUpper else part

def Selection.shown (s : Selection) (group : List (List UInt8)) : List (List UInt8) :=
  if s.others then
    if group.length = 1 then (if s.singles then group else [])
    else group.dropLast ++ (if s.firsts then group.drop (group.length - 1) else [])
  else if (if group.length = 1 then s.singles else s.firsts) then group.take 1
  else []

/-- A group with what sets it apart from the one before; `index` counts the groups that show. -/
def Selection.block (s : Selection) (index : Nat) (group shown : List (List UInt8)) :
    List (List UInt8) :=
  let mark (line : List UInt8) : List UInt8 :=
    if s.counts then bytesOf (Text.aligned 7 group.length ++ " ") ++ line else line
  let before := match s.grouping with
    | .none => false
    | .before => true
    | .between => index ≠ 0
    | .after => false
    | .around => index = 0
  let after := s.grouping = .after ∨ s.grouping = .around
  (if before then [[]] else []) ++ shown.map mark ++ (if after then [[]] else [])

def Selection.select (s : Selection) (lines : List (List UInt8)) : List (List UInt8) :=
  let groups := lines.splitBy fun a b => s.key a == s.key b
  let showing := (groups.map fun g => (g, if s.wholeGroups then g else s.shown g)).filter
    fun e => e.2 ≠ []
  (showing.zipIdx.map fun e => s.block e.2 e.1.1 e.1.2).flatten

def groupingOf (o : Options) : Except String (Grouping × Bool) :=
  match o.value? "group", o.has "group", o.last? ["D", "all-repeated"] with
  | some "separate", _, _ => .ok (.between, true)
  | some "prepend", _, _ => .ok (.before, true)
  | some "append", _, _ => .ok (.after, true)
  | some "both", _, _ => .ok (.around, true)
  | some other, _, _ => .error s!"invalid argument {Naming.literal other} for '--group'"
  | none, true, _ => .ok (.between, true)
  | none, false, some (_, some "prepend") => .ok (.before, false)
  | none, false, some (_, some "separate") => .ok (.between, false)
  | none, false, some (_, some "none") => .ok (.none, false)
  | none, false, some (_, some other) =>
    .error s!"invalid argument {Naming.literal other} for '--all-repeated'"
  | none, false, _ => .ok (.none, false)

def selectionOf (o : Options) : Except String Selection := do
  let number (key what : String) : Except String (Option Nat) :=
    match o.value? key with
    | none => .ok none
    | some text =>
      match Amount.read? "" text with
      | some n => .ok (some n)
      | none => .error s!"{text}: invalid number of {what}"
  let fields ← number "f" "fields to skip"
  let skip ← number "s" "bytes to skip"
  let width ← number "w" "bytes to compare"
  let (grouping, wholeGroups) ← groupingOf o
  let repeated := o.hasAny ["D", "all-repeated"]
  if wholeGroups && o.hasAny ["c", "d", "D", "all-repeated", "u"] then
    throw "--group is mutually exclusive with -c/-d/-D/-u"
  else if repeated && o.has "c" then
    throw "printing all duplicated lines and repeat counts is meaningless"
  else
    return {
      skipFields := fields.getD 0
      skipBytes := skip.getD 0
      width
      folds := o.has "i"
      counts := o.has "c"
      singles := !(o.has "d" || repeated)
      firsts := !o.has "u"
      others := repeated
      grouping
      wholeGroups }

/-- The old way to skip: a hyphen and fields, or a plus sign and bytes. -/
def skipWords (args : List String) : List String :=
  args.map fun word =>
    match word.toList with
    | '-' :: c :: cs => if Amount.isDigits (c :: cs) then "-f" ++ String.ofList (c :: cs) else word
    | '+' :: c :: cs => if Amount.isDigits (c :: cs) then "-s" ++ String.ofList (c :: cs) else word
    | _ => word

def uniqTable : OptionTable :=
  .of "f:is:w:cdDuz" ["count c", "repeated d", "all-repeated[=]", "group[=]", "ignore-case i",
    "unique u", "skip-fields= f", "skip-chars= s", "check-chars= w", "zero-terminated z"]

def uniqWith (o : Options) : Tool := fun job w =>
  match selectionOf o, o.operands with
  | .error complaint, _ => (Tool.misused job complaint 1, w)
  | .ok _, _ :: _ :: extra :: _ =>
    (Tool.misused job s!"extra operand {Naming.literal extra}" 1, w)
  | .ok s, operands =>
    let name := operands.headD "-"
    let source (input : Input) (w : World) : Source :=
      (Source.ofOperands w input [name]).headD ⟨name, .missing, .error .notFound⟩
    let opened := ((operands.drop 1).filter (· ≠ "-")).foldl (fun w target =>
      (w.save .replace target .empty).toOption.getD w) w
    let bytes := ((source (job.input.after w.files opened.files) opened).contents).toOption
    match (source job.input w).contents.map bytes.getD with
    | .error fault =>
      (Tool.failing job s!"{Naming.ifNeeded name}: {fault.wording}" 1, w)
    | .ok bytes =>
      let unread := Tool.leftOver job [name]
      let output := linesWith (o.has "z") (s.select (linesOf (o.has "z") bytes))
      match operands.drop 1 with
      | [] => (.of [] output 0 unread, w)
      | target :: _ =>
        if target = "-" then (.of [] output 0 unread, w)
        else
          match w.write .replace (.ofString target) output with
          | (.ok (), w) => (.of [] .empty 0 unread, w)
          | (.error (.system e), w) =>
            (.of [s!"{job.name}: {Naming.ifNeeded target}: {e.reason}"] .empty 1 unread, w)
          | (.error _, w) => (.of [] .empty 1 unread, w)

def uniq : Tool := fun job w =>
  Tool.withOptions uniqTable 1 uniqWith { job with args := skipWords job.args } w

/-! ## Two sorted texts -/

/-- In which of two texts a line stands. -/
inductive Side
  | first
  | second
  | both
  deriving DecidableEq

/-- The lines of two texts in one order, each with where it stands. -/
def compareLines : Nat → List (List UInt8) → List (List UInt8) → List (Side × List UInt8)
  | 0, _, _ => []
  | _, [], ys => ys.map fun y => (.second, y)
  | _, xs, [] => xs.map fun x => (.first, x)
  | fuel + 1, x :: xs, y :: ys =>
    match orderBytes x y with
    | .eq => (.both, x) :: compareLines fuel xs ys
    | .lt => (.first, x) :: compareLines fuel xs (y :: ys)
    | .gt => (.second, y) :: compareLines fuel (x :: xs) ys

def isSorted : List (List UInt8) → Bool
  | a :: b :: rest => precedes a b && isSorted (b :: rest)
  | _ => true

/-- Which of two texts are noticed to be out of order: those that are, if they are not the same. -/
def disorder (always never : Bool) (merged : List (Side × List UInt8))
    (xs ys : List (List UInt8)) : List Nat :=
  if never || !(always || merged.any fun e => e.1 ≠ .both) then []
  else (if isSorted xs then [] else [1]) ++ (if isSorted ys then [] else [2])

def commTable : OptionTable :=
  .of "123z" ["check-order", "nocheck-order", "output-delimiter=", "total", "zero-terminated z"]

def commWith (o : Options) : Tool := fun job w =>
  match o.operands with
  | [] => (Tool.misused job "missing operand" 1, w)
  | [only] => (Tool.misused job s!"missing operand after {Naming.literal only}" 1, w)
  | _ :: _ :: extra :: _ => (Tool.misused job s!"extra operand {Naming.literal extra}" 1, w)
  | operands =>
    let sources := Source.ofOperands w job.input operands
    match Source.complaints job.name sources, (Source.found sources).map Prod.snd with
    | [], [a, b] =>
      let zero := o.has "z"
      let xs := linesOf zero a
      let ys := linesOf zero b
      let merged := compareLines (xs.length + ys.length + 1) xs ys
      let between := match o.value? "output-delimiter" with
        | none => [9]
        | some "" => [0]
        | some text => bytesOf text
      let gap (key : String) : List UInt8 := if o.has key then [] else between
      let row (e : Side × List UInt8) : Option (List UInt8) :=
        match e.1 with
        | .first => if o.has "1" then none else some e.2
        | .second => if o.has "2" then none else some (gap "1" ++ e.2)
        | .both => if o.has "3" then none else some (gap "1" ++ gap "2" ++ e.2)
      let count (s : Side) : List UInt8 :=
        bytesOf (toString (merged.filter fun e => e.1 = s).length)
      let totals := if o.has "total" then
          [List.intercalate between [count .first, count .second, count .both, bytesOf "total"]]
        else []
      let wrong := disorder (o.has "check-order") (o.has "nocheck-order") merged xs ys
      let said := wrong.map fun n => s!"{job.name}: file {n} is not in sorted order"
      let said := if wrong = [] then [] else said ++ [s!"{job.name}: input is not in sorted order"]
      (.of said (linesWith zero (merged.filterMap row ++ totals)) (if wrong = [] then 0 else 1)
        (Tool.leftOver job operands), w)
    | complaints, _ => (.of (complaints.take 1) .empty 1 (Tool.leftOver job operands), w)

def comm : Tool := .withOptions commTable 1 commWith

/-! ## Joining -/

/-- A field that is written: that of the key, or one of the first or second text. -/
inductive Column
  | key
  | field (second : Bool) (index : Nat)
  deriving DecidableEq

structure Joining where
  separator : Option UInt8
  firstKey : Nat
  secondKey : Nat
  folds : Bool
  filler : List UInt8
  columns : Option (List Column)
  /-- Whether lines without a partner are shown, of either text. -/
  lonelyFirst : Bool
  lonelySecond : Bool
  pairs : Bool

def Joining.fields (j : Joining) (line : List UInt8) : List (List UInt8) :=
  match j.separator with
  | some s => line.splitOn s
  | none => (line.splitOnP isBlank).filter (· ≠ [])

def Joining.keyOf (j : Joining) (second : Bool) (fields : List (List UInt8)) : List UInt8 :=
  fields.getD (if second then j.secondKey else j.firstKey) []

def Joining.compared (j : Joining) (key : List UInt8) : List UInt8 :=
  if j.folds then key.map toUpper else key

def Joining.between (j : Joining) : List UInt8 := [j.separator.getD 32]

def Joining.filled (j : Joining) (field : List UInt8) : List UInt8 :=
  if field = [] then j.filler else field

/-- A row made of the fields of two lines, one of which may be missing. -/
def Joining.row (j : Joining) (x y : Option (List (List UInt8))) : List UInt8 :=
  let key := match x, y with
    | some fields, _ => j.keyOf false fields
    | none, some fields => j.keyOf true fields
    | none, none => []
  let others (second : Bool) (fields : Option (List (List UInt8))) : List (List UInt8) :=
    (fields.getD []).eraseIdx (if second then j.secondKey else j.firstKey)
  let shown := match j.columns with
    | none => key :: (others false x ++ others true y)
    | some columns => columns.map fun (c : Column) =>
      match c with
      | .key => key
      | .field second index => ((if second then y else x).getD []).getD index []
  List.intercalate j.between (shown.map j.filled)

/-- Pairs the lines of two texts by their keys; `fuel` bounds the steps. -/
def Joining.join (j : Joining) :
    Nat → List (List (List UInt8)) → List (List (List UInt8)) → List (List UInt8)
  | 0, _, _ => []
  | _, [], [] => []
  | fuel + 1, x :: xs, [] =>
    (if j.lonelyFirst then [j.row (some x) none] else []) ++ j.join fuel xs []
  | fuel + 1, [], y :: ys =>
    (if j.lonelySecond then [j.row none (some y)] else []) ++ j.join fuel [] ys
  | fuel + 1, x :: xs, y :: ys =>
    let kx := j.compared (j.keyOf false x)
    let ky := j.compared (j.keyOf true y)
    match orderBytes kx ky with
    | .lt => (if j.lonelyFirst then [j.row (some x) none] else []) ++ j.join fuel xs (y :: ys)
    | .gt => (if j.lonelySecond then [j.row none (some y)] else []) ++ j.join fuel (x :: xs) ys
    | .eq =>
      let as := (x :: xs).takeWhile fun a => j.compared (j.keyOf false a) == kx
      let bs := (y :: ys).takeWhile fun b => j.compared (j.keyOf true b) == kx
      (if j.pairs then as.flatMap fun a => bs.map fun b => j.row (some a) (some b) else []) ++
        j.join fuel ((x :: xs).drop as.length) ((y :: ys).drop bs.length)

def Joining.hasLonely (j : Joining) (xs ys : List (List (List UInt8))) : Bool :=
  let kx := xs.map fun x => j.compared (j.keyOf false x)
  let ky := ys.map fun y => j.compared (j.keyOf true y)
  kx.any (!ky.contains ·) || ky.any (!kx.contains ·)

def columnsOf (text : String) : Option (List Column) :=
  ((text.toList.map fun c => if c = ' ' ∨ c = '\t' then ',' else c).splitOn ',').mapM fun entry =>
    match entry with
    | ['0'] => some .key
    | side :: '.' :: digits =>
      if (side = '1' ∨ side = '2') ∧ Amount.isDigits digits ∧ readDigits digits ≠ 0 then
        some (.field (side = '2') (readDigits digits - 1))
      else none
    | _ => none

def joiningOf (o : Options) : Except String Joining := do
  let number (key : String) : Except String (Option Nat) :=
    match o.value? key with
    | none => .ok none
    | some text =>
      match (Amount.read? "" text).filter (· ≠ 0) with
      | some n => .ok (some (n - 1))
      | none => .error s!"invalid field number: {Naming.literal text}"
  let shared ← number "j"
  let first ← number "1"
  let second ← number "2"
  let separator ← match o.value? "t" with
    | none => pure none
    | some "\\0" => pure (some 0)
    | some text =>
      match bytesOf text with
      | [] => pure (some lineFeed)
      | [b] => pure (some b)
      | _ => throw s!"multi-character tab {Naming.literal text}"
  let columns ← match o.values "o" with
    | [] => pure none
    | ["auto"] => pure none
    | texts =>
      match texts.mapM columnsOf with
      | some columns => pure (some columns.flatten)
      | none =>
        let given := Naming.literal (texts.headD "")
        throw s!"invalid field specifier: {given}"
  let sides := o.values "a" ++ o.values "v"
  match sides.find? fun s => s ≠ "1" ∧ s ≠ "2" with
  | some bad => throw s!"invalid field number: {Naming.literal bad}"
  | none =>
    return {
      separator
      firstKey := (first.or shared).getD 0
      secondKey := (second.or shared).getD 0
      folds := o.has "i"
      filler := bytesOf ((o.value? "e").getD "")
      columns
      lonelyFirst := sides.contains "1"
      lonelySecond := sides.contains "2"
      pairs := !o.has "v" }

def joinTable : OptionTable :=
  .of "a:e:i1:2:j:o:t:v:z" ["ignore-case i", "check-order", "nocheck-order", "zero-terminated z",
    "header"]

def keysSorted (j : Joining) (second : Bool) (rows : List (List (List UInt8))) : Bool :=
  isSorted (rows.map fun r => j.compared (j.keyOf second r))

def joinWith (o : Options) : Tool := fun job w =>
  match joiningOf o, o.operands with
  | .error complaint, _ => (Tool.failing job complaint 1, w)
  | _, [] => (Tool.misused job "missing operand" 1, w)
  | _, [only] => (Tool.misused job s!"missing operand after {Naming.literal only}" 1, w)
  | _, _ :: _ :: extra :: _ => (Tool.misused job s!"extra operand {Naming.literal extra}" 1, w)
  | .ok j, operands =>
    let sources := Source.ofOperands w job.input operands
    let unread := Tool.leftOver job operands
    match Source.complaints job.name sources, (Source.found sources).map Prod.snd with
    | [], [a, b] =>
      let zero := o.has "z"
      let xs := (linesOf zero a).map j.fields
      let ys := (linesOf zero b).map j.fields
      let j := if o.values "o" = ["auto"] then
          let all (second : Bool) (rows : List (List (List UInt8))) : List Column :=
            ((List.range (rows.headD []).length).eraseIdx
              (if second then j.secondKey else j.firstKey)).map (.field second)
          { j with columns := some (.key :: (all false xs ++ all true ys)) }
        else j
      let (heads, xs, ys) := if o.has "header" then
          ([j.row xs.head? ys.head?], xs.drop 1, ys.drop 1)
        else ([], xs, ys)
      let rows := heads ++ j.join (xs.length + ys.length + 1) xs ys
      let checks := !o.has "nocheck-order" && (o.has "check-order" || j.hasLonely xs ys)
      let wrong := checks && !(keysSorted j false xs && keysSorted j true ys)
      let said := if wrong then [s!"{job.name}: input is not in sorted order"] else []
      (.of said (linesWith zero rows) (if wrong then 1 else 0) unread, w)
    | complaints, _ => (.of (complaints.take 1) .empty 1 unread, w)

def join : Tool := .withOptions joinTable 1 joinWith

end CommandShell.Neighbours
