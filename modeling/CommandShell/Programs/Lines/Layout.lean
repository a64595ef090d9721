import CommandShell.Programs.Amount
import CommandShell.Programs.Sources

/-!
# Columns on the screen

The tools that fold lines at a width and that turn tabs into blanks and blanks into tabs.
-/
namespace CommandShell.Layout
open Bytes

def isBlank (b : UInt8) : Bool := b = 32 || b = 9

/-! ## Folding -/

def columnAfter (byBytes : Bool) (column : Nat) (b : UInt8) : Nat :=
  if byBytes then column + 1
  else if b = 8 then column - 1
  else if b = 13 then 0
  else if b = 9 then column + (8 - column % 8)
  else column + 1

structure Folding where
  width : Nat
  byBytes : Bool
  atBlanks : Bool

/-- What has been folded, and the line under way, both in reverse. -/
structure FoldState where
  out : List UInt8
  line : List UInt8
  column : Nat

def Folding.columnOf (f : Folding) (line : List UInt8) : Nat :=
  line.foldr (fun b column => columnAfter f.byBytes column b) 0

/-- Adds a byte, after a line end where it would not fit; `fuel` bounds how often the line is
broken. -/
def Folding.add (f : Folding) : Nat → FoldState → UInt8 → FoldState
  | 0, s, b => { s with line := b :: s.line }
  | fuel + 1, s, b =>
    let column := columnAfter f.byBytes s.column b
    if column ≤ f.width then { s with line := b :: s.line, column }
    else
      let tail := s.line.takeWhile (!isBlank ·)
      if f.atBlanks ∧ tail.length < s.line.length then
        let head := s.line.drop tail.length
        f.add fuel ⟨lineFeed :: (head ++ s.out), tail, f.columnOf tail⟩ b
      else if s.line = [] then { s with line := [b], column }
      else f.add fuel ⟨lineFeed :: (s.line ++ s.out), [], 0⟩ b

def Folding.step (f : Folding) (s : FoldState) (b : UInt8) : FoldState :=
  if b = lineFeed then ⟨lineFeed :: (s.line ++ s.out), [], 0⟩ else f.add (s.line.length + 2) s b

def Folding.fold (f : Folding) (bytes : ByteArray) : List UInt8 :=
  let s := bytes.foldl f.step ⟨[], [], 0⟩
  (s.line ++ s.out).reverse

/-- Words of a hyphen and digits ask for a width. -/
def widthWords (key : String) (args : List String) : List String :=
  args.map fun word =>
    match word.toList with
    | '-' :: cs => if Amount.isDigits cs then key ++ String.ofList cs else word
    | _ => word

def columns : String := "number of columns"

def fold : Tool := fun job w =>
  Tool.reader (.of "bsw:" ["bytes b", "spaces s", "width= w"]) 1 (fun o job sources =>
    let width := (o.value? "w").getD "80"
    match Amount.within 1 (Amount.largest - 9) "" width with
    | .error fault =>
      ⟨[s!"{job.name}: {Amount.refusal columns width fault}"], .empty, 1⟩
    | .ok width =>
      let f : Folding := ⟨width, o.has "b", o.has "s"⟩
      ⟨Source.complaints job.name sources,
        concat ((Source.found sources).map fun e => (f.fold e.2).toByteArray),
        Source.status sources⟩) { job with args := widthWords "-w" job.args } w

/-! ## Tabs -/

/-- What comes behind the last tab stop that is given. -/
inductive Beyond
  | nothing
  /-- Stops at all multiples. -/
  | multiples (n : Nat)
  /-- Stops at even steps from the last one. -/
  | steps (n : Nat)
  deriving DecidableEq

structure TabStops where
  stops : List Nat
  beyond : Beyond

def TabStops.ofText (s : String) : Except String TabStops :=
  let entries := ((s.toList.map fun c => if c = ',' ∨ c = '\t' then ' ' else c).splitOn ' ').filter
    (· ≠ [])
  let rec go (sofar : TabStops) : List (List Char) → Except String TabStops
    | [] => .ok sofar
    | entry :: rest =>
      let (mark, digits) := match entry with
        | '/' :: ds => (some '/', ds)
        | '+' :: ds => (some '+', ds)
        | ds => (none, ds)
      if ¬ Amount.isDigits digits then
        .error s!"tab size contains invalid character(s): {Naming.literal (String.ofList digits)}"
      else if Amount.largest < readDigits digits then
        .error s!"tab stop is too large {Naming.literal (String.ofList digits)}"
      else
        let n := readDigits digits
        match mark with
        | some '/' => go { sofar with beyond := if n = 0 then .nothing else .multiples n } rest
        | some _ => go { sofar with beyond := if n = 0 then .nothing else .steps n } rest
        | none =>
          if n = 0 then .error "tab size cannot be 0"
          else if (sofar.stops.getLast?.getD 0) ≥ n then .error "tab sizes must be ascending"
          else go { sofar with stops := sofar.stops ++ [n] } rest
  go ⟨[], .nothing⟩ entries

/-- The next tab stop behind a column; none if there is no more. -/
def TabStops.next (t : TabStops) (column : Nat) : Option Nat :=
  match t.stops, t.beyond with
  | [], .nothing => some (column + (8 - column % 8))
  | [], .multiples n => some (column + (n - column % n))
  | [], .steps n => some (column + (n - column % n))
  | [n], .nothing => some (column + (n - column % n))
  | stops, beyond =>
    match stops.find? (column < ·), beyond with
    | some stop, _ => some stop
    | none, .nothing => none
    | none, .multiples n => some (column + (n - column % n))
    | none, .steps n => some (column + (n - (column - stops.getLastD 0) % n))

/-- A line under way: what has been written, in reverse, the column, and whether tabs are still
looked at. -/
structure ExpandState where
  out : List UInt8
  column : Nat
  converting : Bool

def expandStep (t : TabStops) (leading : Bool) (s : ExpandState) (b : UInt8) : ExpandState :=
  if b = lineFeed then ⟨lineFeed :: s.out, 0, true⟩
  else if !s.converting then { s with out := b :: s.out }
  else
    let goesOn := !leading || isBlank b
    if b = 9 then
      let next := (t.next s.column).getD (s.column + 1)
      ⟨List.replicate (next - s.column) 32 ++ s.out, next, goesOn⟩
    else if b = 8 then ⟨b :: s.out, s.column - 1, goesOn⟩
    else ⟨b :: s.out, s.column + 1, goesOn⟩

/-- Blanks that may still become tabs are pending. -/
structure UnexpandState where
  out : List UInt8
  column : Nat
  converting : Bool
  previousBlank : Bool
  oneBefore : Bool
  pending : List UInt8

def UnexpandState.begin (out : List UInt8) : UnexpandState := ⟨out, 0, true, true, false, []⟩

/-- Writes the pending blanks; several that end right before a tab stop become a tab. -/
def UnexpandState.flush (s : UnexpandState) : UnexpandState :=
  if s.pending = [] then s
  else
    let blanks := if 1 < s.pending.length ∧ s.oneBefore then 9 :: s.pending.drop 1 else s.pending
    { s with out := blanks.reverse ++ s.out, pending := [], oneBefore := false }

def UnexpandState.settle (s : UnexpandState) (leading blank : Bool) (b : UInt8) : UnexpandState :=
  let s := s.flush
  { s with
    out := b :: s.out
    previousBlank := blank
    converting := s.converting && (!leading || blank) }

def unexpandStep (t : TabStops) (leading : Bool) (s : UnexpandState) (b : UInt8) : UnexpandState :=
  if !s.converting then
    if b = lineFeed then .begin (b :: s.out) else { s with out := b :: s.out }
  else if b = lineFeed then .begin (b :: s.flush.out)
  else if isBlank b then
    match t.next s.column with
    | none => ({ s with converting := false } : UnexpandState).settle leading true b
    | some next =>
      let keep (p : List UInt8) : List UInt8 := if s.oneBefore then p.take 1 else []
      if b = 9 then
        let pending := if s.pending = [] then [] else keep (9 :: s.pending.drop 1)
        { s with column := next, pending := pending }.settle leading true 9
      else
        let column := s.column + 1
        if s.previousBlank ∧ column = next then
          { s with column, pending := keep (9 :: s.pending.drop 1) }.settle leading true 9
        else
          { s with
            column
            oneBefore := s.oneBefore || column = next
            pending := s.pending ++ [b]
            previousBlank := true }
  else if b = 8 then { s with column := s.column - 1 }.settle leading false b
  else { s with column := s.column + 1 }.settle leading false b

/-- The tab stops that are asked for; each word of digits asks for one more. -/
def stopsOf (o : Options) : Except String TabStops :=
  TabStops.ofText (String.intercalate "," (o.values "t"))

/-- Words of a hyphen and a list of numbers ask for tab stops. -/
def tabWords (args : List String) : List String :=
  args.map fun word =>
    match word.toList with
    | '-' :: c :: cs =>
      if c.isDigit ∧ cs.all (fun d => d.isDigit ∨ d = ',') then "-t" ++ String.ofList (c :: cs)
      else word
    | _ => word

def tabTool (table : OptionTable) (convert : Options → TabStops → ByteArray → List UInt8) : Tool :=
  fun job w =>
    Tool.reader table 1 (fun o job sources =>
      match stopsOf o with
      | .error complaint => ⟨[s!"{job.name}: {complaint}"], .empty, 1⟩
      | .ok stops =>
        ⟨Source.complaints job.name sources,
          (convert o stops (Source.joined sources)).toByteArray, Source.status sources⟩)
      { job with args := tabWords job.args } w

def expand : Tool :=
  tabTool (.of "it:" ["tabs= t", "initial i"]) fun o stops bytes =>
    (bytes.foldl (expandStep stops (o.has "i")) ⟨[], 0, true⟩).out.reverse

def unexpand : Tool :=
  tabTool (.of "at:" ["tabs= t", "all a", "first-only F"]) fun o stops bytes =>
    let leading := o.has "F" || !o.hasAny ["a", "t"]
    (bytes.foldl (unexpandStep stops leading) (.begin [])).flush.out.reverse

end CommandShell.Layout
