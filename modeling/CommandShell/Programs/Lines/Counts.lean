import CommandShell.Programs.Sources
import CommandShell.Text.Aligned

/-!
# Counts

The tool that counts lines, words and bytes, and measures the longest line.
-/
namespace CommandShell.Counts
open Bytes Text

/-- What is counted of some bytes. -/
structure Tally where
  lines : Nat
  words : Nat
  bytes : Nat
  longest : Nat

/-- A count under way: inside a word or not, and at a column of a line. -/
structure Counting where
  lines : Nat
  words : Nat
  inside : Bool
  column : Nat
  longest : Nat

def Counting.endWord (c : Counting) : Counting :=
  { c with words := if c.inside then c.words + 1 else c.words, inside := false }

/-- A word starts at a byte that shows; bytes that do not show neither start nor end one. -/
def Counting.step (c : Counting) (b : UInt8) : Counting :=
  if b = lineFeed ∨ b = 13 ∨ b = 12 then
    { c.endWord with
      lines := if b = lineFeed then c.lines + 1 else c.lines
      longest := max c.longest c.column
      column := 0 }
  else if b = 9 then { c.endWord with column := c.column + (8 - c.column % 8) }
  else if b = 32 then { c.endWord with column := c.column + 1 }
  else if b = 11 then c.endWord
  else if 33 ≤ b ∧ b ≤ 126 then { c with column := c.column + 1, inside := true }
  else c

def Tally.ofBytes (bytes : ByteArray) : Tally :=
  let c := (bytes.foldl Counting.step ⟨0, 0, false, 0, 0⟩).endWord
  ⟨c.lines, c.words, bytes.size, max c.longest c.column⟩

def Tally.add (a b : Tally) : Tally :=
  ⟨a.lines + b.lines, a.words + b.words, a.bytes + b.bytes, max a.longest b.longest⟩

def Tally.none : Tally := ⟨0, 0, 0, 0⟩

/-- The counts that are asked for, in their fixed order. -/
def Tally.chosen (o : Options) (c : Tally) : List Nat :=
  let all := !o.hasAny ["l", "w", "c", "m", "L"]
  (if all || o.has "l" then [c.lines] else []) ++ (if all || o.has "w" then [c.words] else []) ++
    (if o.has "m" then [c.bytes] else []) ++ (if all || o.has "c" then [c.bytes] else []) ++
    (if o.has "L" then [c.longest] else [])

/-- What is counted of a source; a folder counts as empty. -/
def Tally.ofSource (s : Source) : Option Tally :=
  match s.contents with
  | .ok bytes => some (.ofBytes bytes)
  | .error .isFolder => some .none
  | .error _ => Option.none

/-- Whether the size of a source is known before it is read. -/
def hasSize (s : Source) : Bool := s.identity?.isSome

/-- The width of the numbers. It is enough for all that is known beforehand, and larger if something
is not; where the first operand is missing nothing is known. -/
def widthOf (chosen : Nat) (sources : List Source) : Nat :=
  match sources, chosen with
  | [], _ => 1
  | [_], 1 => 1
  | first :: _, _ =>
    if first.isMissing then 1
    else
      let there := sources.filter (!·.isMissing)
      let total := (there.filter hasSize).foldl
        (fun n s => n + (s.contents.toOption.getD .empty).size) 0
      max (toString total).length (if there.all hasSize then 1 else 7)

/-- Counts what sources hold; behind several of them stands the sum. -/
def report (o : Options) (job : Job) (sources : List Source) : Answer :=
  let found := sources.filterMap fun s => (Tally.ofSource s).map fun c => (s.name, c)
  let total := found.foldl (fun t e => t.add e.2) .none
  let width := widthOf (total.chosen o).length sources
  let row (c : Tally) (name : String) : String :=
    String.intercalate " " ((c.chosen o).map (aligned width)) ++
      (if name = "" then "" else " " ++ name) ++ "\n"
  let named : Bool := o.operands ≠ [] ∨ o.has "files0-from"
  let rows := found.map fun e => row e.2 (if named then e.1 else "")
  let sum := if 1 < sources.length then [row total "total"] else []
  ⟨Source.complaints job.name sources, ofText (String.join (rows ++ sum)), Source.status sources⟩

def wc : Tool :=
  .withOptions (.of "clLmw" ["bytes c", "chars m", "lines l", "words w", "max-line-length L",
    "files0-from="]) 1 fun o job w =>
    match Source.listed o job.input w with
    | .error message => (Tool.failing job message 1, w)
    | .ok names =>
      let a := report o job (Source.ofOperands w job.input names)
      (.of a.reports a.output a.status (Tool.leftOver job names), w)

end CommandShell.Counts
