import CommandShell.Programs.Amount
import CommandShell.Programs.Sources

/-!
# Paragraphs

The tool that breaks paragraphs into lines of about the same length. Rows that are indented alike
and follow one another are a paragraph. Each way to break it has a cost: for every line, for lines
that are short or unlike the next one, and for breaks in bad places; a cheapest way is taken. All
costs are known from the last word to the first, so that each is computed once.
-/
namespace CommandShell.Paragraphs
open Bytes

/-- Which rows make a paragraph, and how its lines are indented. -/
inductive Mode
  /-- Rows of one indent. -/
  | plain
  /-- A row with an indent of its own, and rows that share theirs. -/
  | crown
  /-- The same, where the two indents have to differ. -/
  | tagged
  /-- Each row alone. -/
  | split
  deriving DecidableEq

/-- How rows are read and broken. -/
structure Style where
  mode : Mode
  uniform : Bool
  width : Nat
  goal : Nat
  /-- What rows have to start with, without the blanks around it. -/
  mark : List UInt8
  /-- How many blanks stand in front of the mark at least. -/
  lead : Nat
  /-- How long the mark is with the blanks behind it. -/
  reach : Nat

/-! ## Rows and words -/

/-- The column behind blanks, whether there is a tab among them, and what comes after them. -/
def skipBlanks (column : Nat) : List UInt8 → Nat × Bool × List UInt8
  | [] => (column, false, [])
  | b :: rest =>
    if b = 32 then skipBlanks (column + 1) rest
    else if b = 9 then
      let (column, _, rest) := skipBlanks ((column / 8 + 1) * 8) rest
      (column, true, rest)
    else (column, false, b :: rest)

/-- A row of the input, read up to its first word. -/
structure Row where
  /-- The column of the mark. -/
  indent : Nat
  /-- The column of the first word. -/
  column : Nat
  tabs : Bool
  rest : List UInt8
  /-- No line feed ends it. -/
  isLast : Bool

/-- The column behind as much of a mark as there is, and what is left of both. -/
def skipMark (column : Nat) : List UInt8 → List UInt8 → Nat × List UInt8 × List UInt8
  | m :: mark, b :: rest =>
    if m = b then skipMark (column + 1) mark rest
    else (column, m :: mark, b :: rest)
  | mark, rest => (column, mark, rest)

def Row.ofBytes (s : Style) (isLast : Bool) (bytes : List UInt8) : Row :=
  let (column, tabs, rest) := skipBlanks 0 bytes
  if s.mark = [] then ⟨min s.lead column, column, tabs, rest, isLast⟩
  else
    match skipMark column s.mark rest with
    | (reached, [], rest) =>
      let (reached, more, rest) := skipBlanks reached rest
      ⟨column, reached, tabs || more, rest, isLast⟩
    | (reached, _, rest) => ⟨column, reached, tabs, rest, isLast⟩

def Row.isText (s : Style) (r : Row) : Bool :=
  r.rest ≠ [] && s.lead ≤ r.indent && r.indent + s.reach ≤ r.column

/-- Whether a row can go on with a paragraph that another one starts. -/
def Row.continues (s : Style) (first r : Row) : Bool :=
  r.isText s && r.indent = first.indent

structure Word where
  text : List UInt8
  /-- How many blanks come after it. -/
  space : Nat
  opens : Bool
  punctuated : Bool
  period : Bool
  /-- It ends a sentence. -/
  isFinal : Bool

def isSpace (b : UInt8) : Bool := b = 32 || (9 ≤ b && b ≤ 13)

def isOneOf (chars : String) (b : UInt8) : Bool := b = 0 || (bytesOf chars).contains b

def isPunctuation (b : UInt8) : Bool :=
  (33 ≤ b && b ≤ 47) || (58 ≤ b && b ≤ 64) || (91 ≤ b && b ≤ 96) || (123 ≤ b && b ≤ 126)

def Word.ofText (text : List UInt8) : Word :=
  let back := text.reverse
  let tail := back.dropWhile (isOneOf ")]'\"")
  let core := if tail = [] then text.head? else tail.head?
  { text
    space := 0
    opens := text.head?.any (isOneOf "(['\x60\"")
    punctuated := back.head?.any isPunctuation
    period := core.any (isOneOf ".?!")
    isFinal := false }

/-- The words of a row, and whether there is a tab between them; `fuel` bounds their number. -/
def wordsFrom (s : Style) (isLast : Bool) : Nat → Nat → List UInt8 → List Word × Bool
  | fuel + 1, column, b :: rest =>
    let text := b :: rest.takeWhile (!isSpace ·)
    let column := column + text.length
    let (next, tab, rest) := skipBlanks column (rest.drop (text.length - 1))
    let word := Word.ofText text
    let ends := rest = []
    let isFinal := (ends && isLast) || (word.period && (ends || 1 < next - column))
    let space := if ends ∨ s.uniform then (if isFinal then 2 else 1) else next - column
    let (words, tabs) := wordsFrom s isLast fuel next rest
    ({ word with isFinal, space } :: words, tab || tabs)
  | _, _, _ => ([], false)

def Row.words (s : Style) (r : Row) : List Word × Bool :=
  wordsFrom s r.isLast (r.rest.length + 1) r.column r.rest

/-! ## Breaks -/

def square (n : Int) : Int := n * n

/-- The cost of a difference between the lengths of two lines. -/
def raggedCost (difference : Int) : Int := square (10 * difference) / 2

/-- A line: what it and those behind it cost, the word at which the next one starts, and its
length. -/
structure Break where
  cost : Int
  next : Nat
  length : Nat

/-- The cost of ending a line of some length in front of another one. -/
def lineCost (s : Style) (count length : Nat) (after : Break) : Int :=
  square (10 * ((s.goal : Int) - length)) +
    if after.next = count then 0 else raggedCost ((length : Int) - after.length)

/-- The cost of starting a line with a word; the words before it have the nearest in front. -/
def startCost (before : List Word) (word : Word) : Int :=
  let behind := match before with
    | [] => 0
    | last :: others =>
      if last.period then (if last.isFinal then -square 50 else square 600)
      else if last.punctuated then -square 40
      else if others.head?.any Word.isFinal then square 200 / (last.text.length + 2)
      else 0
  let ahead :=
    if word.opens then -square 40
    else if word.isFinal then square 150 / (word.text.length + 2)
    else 0
  square 70 + behind + ahead

def cheaper (best : Option Break) (b : Break) : Option Break :=
  match best with
  | none => some b
  | some a => if b.cost < a.cost then some b else some a

/-- The best end of a line that is `length` long in front of the word at a position. -/
def endOf (s : Style) (count : Nat) (best : Option Break) (length position : Nat)
    (previous : Word) :
    List (Word × Break) → Option Break
  | [] => cheaper best ⟨0, position, length⟩
  | (word, b) :: rest =>
    let best := cheaper best ⟨lineCost s count length b + b.cost, position, length⟩
    let longer := length + previous.space + word.text.length
    if longer < s.width then endOf s count best longer (position + 1) word rest else best

/-- All words, each with the best line that starts with it. -/
def breaks (s : Style) (count first other : Nat) (before : List Word) :
    List Word → List (Word × Break)
  | [] => []
  | word :: rest =>
    let later := breaks s count first other (word :: before) rest
    let indent := if before = [] then first else other
    let best := endOf s count none (indent + word.text.length) (before.length + 1) word later
    let b := best.getD ⟨0, before.length + 1, 0⟩
    (word, { b with cost := b.cost + startCost before word }) :: later

/-- The words of each line; `fuel` bounds the number of lines. -/
def linesFrom : Nat → Nat → List (Word × Break) → List (List Word)
  | fuel + 1, position, (word, b) :: rest =>
    let items := (word, b) :: rest
    let n := b.next - position
    (items.take n).map Prod.fst :: linesFrom fuel b.next (items.drop n)
  | _, _, _ => []

/-! ## Writing -/

/-- Bytes in reverse, and the column behind them. -/
structure Pen where
  out : List UInt8
  column : Nat

/-- Tabs up to a column; `fuel` bounds their number. -/
def Pen.tab : Nat → Nat → Pen → Pen
  | 0, _, p => p
  | fuel + 1, goal, p =>
    if p.column < goal then tab fuel goal ⟨9 :: p.out, (p.column / 8 + 1) * 8⟩ else p

/-- Moves on, with tabs where they save anything if there are any. -/
def Pen.move (tabs : Bool) (n : Nat) (p : Pen) : Pen :=
  let goal := p.column + n
  let stop := goal / 8 * 8
  let p := if tabs ∧ p.column + 1 < stop then p.tab n stop else p
  ⟨List.replicate (goal - p.column) 32 ++ p.out, goal⟩

def Pen.write (bytes : List UInt8) (p : Pen) : Pen :=
  ⟨bytes.reverse ++ p.out, p.column + bytes.length⟩

def lineBytes (s : Style) (tabs : Bool) (lead indent : Nat) (words : List Word) : List UInt8 :=
  let p := ((Pen.mk [] 0).move tabs lead).write s.mark
  let p := p.move tabs (indent - p.column)
  let (p, _) := words.foldl (fun (p, space) word =>
    ((p.move tabs space).write word.text, word.space)) (p, 0)
  (lineFeed :: p.out).reverse

/-- A row as it is, up to its indent. -/
def copyBytes (s : Style) (tabs : Bool) (r : Row) : List UInt8 :=
  let start : Pen := ⟨[], 0⟩
  let p :=
    if r.indent < r.column ∨ r.rest ≠ [] then
      let p := (start.move tabs r.indent).write (s.mark.take (r.column - r.indent))
      if r.rest ≠ [] then p.move tabs (r.column - p.column)
      else if r.isLast ∧ r.indent + s.mark.length ≤ r.column then p.write [lineFeed]
      else p
    else start
  p.out.reverse ++ r.rest ++ if r.isLast then [] else [lineFeed]

/-- How much the lines behind the first one are indented. -/
def otherIndent (s : Style) (previous : Nat) (first : Row) (next : Option Row) : Nat :=
  match s.mode, next with
  | .crown, some next => next.column
  | .tagged, next =>
    match next.filter (·.column ≠ first.column) with
    | some next => next.column
    | none => if previous ≠ first.column then previous else if first.column = 0 then 3 else 0
  | _, _ => first.column

def paragraphBytes (s : Style) (tabs : Bool) (first : Row) (other : Nat) (words : List Word) :
    List UInt8 :=
  let words := words.dropLast ++
    words.getLast?.toList.map fun word => { word with period := true, isFinal := true }
  let lines := linesFrom words.length 0 (breaks s words.length first.column other [] words)
  match lines with
  | [] => []
  | line :: rest =>
    lineBytes s tabs first.indent first.column line ++
      rest.flatMap (lineBytes s tabs first.indent other)

/-- All paragraphs, and the rows between them as they are; `fuel` bounds their number. Tabs are
written once one has been read; the other indent of a paragraph can be that of the next one. -/
def rowsBytes (s : Style) : Nat → Bool → Nat → List Row → List (List UInt8)
  | fuel + 1, tabs, other, first :: rest =>
    let tabs := tabs || first.tabs
    if !first.isText s then copyBytes s tabs first :: rowsBytes s fuel tabs other rest
    else
      let next := rest.head?.filter (first.continues s)
      let other := otherIndent s other first next
      let more := if s.mode = .split then []
        else rest.takeWhile fun r => first.continues s r && r.column = other
      let behind := rest.drop more.length
      let read := (first :: more).map (Row.words s)
      let tabs := tabs || more.any Row.tabs || read.any Prod.snd || behind.head?.any Row.tabs
      paragraphBytes s tabs first other (read.flatMap Prod.fst) ::
        rowsBytes s fuel tabs other behind
  | _, _, _, _ => []

def rowsOf (s : Style) (bytes : ByteArray) : List Row :=
  let all := pieces bytes
  all.dropLast.map (Row.ofBytes s false) ++ all.getLast?.toList.map (Row.ofBytes s true)

def format (s : Style) (bytes : ByteArray) : ByteArray :=
  let rows := rowsOf s bytes
  join (rowsBytes s (rows.length + 1) false 0 rows)

/-! ## The tool -/

def usualWidth : Nat := 75

def mostWidth : Nat := 2500

/-- The width of lines, and the length that is aimed at. -/
def widthsOf (o : Options) : Except String (Nat × Nat) := do
  let read (text : String) (most : Nat) : Except String Nat :=
    (Amount.within 0 most "" text).mapError (Amount.refusal "width" text)
  let width := (← (o.value? "w").mapM (read · mostWidth)).getD usualWidth
  match o.value? "g" with
  | none => return (width, width * 187 / 200)
  | some text =>
    let goal ← read text width
    return (if o.has "w" then width else goal + 10, goal)

def styleOf (o : Options) : Except String Style := do
  let (width, goal) ← widthsOf o
  let given := bytesOf ((o.value? "p").getD "")
  let reach := given.dropWhile (· = 32)
  let mark := (reach.reverse.dropWhile (· = 32)).reverse
  let mode := if o.has "s" then .split else if o.has "c" then .crown else if o.has "t" then .tagged
    else .plain
  return ⟨mode, o.has "u", width, goal, mark, given.length - reach.length, reach.length⟩

def table : OptionTable :=
  .of "0123456789cstuw:p:g:" ["crown-margin c", "prefix= p", "split-only s", "tagged-paragraph t",
    "uniform-spacing u", "width= w", "goal= g"]

/-- A hyphen and digits as the first word ask for a width. -/
def widthFirst (args : List String) : List String :=
  match args with
  | [] => []
  | word :: rest =>
    match word.toList with
    | '-' :: c :: cs => if c.isDigit then ("-w" ++ String.ofList (c :: cs)) :: rest else args
    | _ => args

/-- What is said about a source that cannot be read. -/
def complaint (tool : String) (s : Source) : Option String :=
  match s.contents with
  | .ok _ => none
  | .error .isFolder => some s!"{tool}: read error: Is a directory"
  | .error fault => some s!"{tool}: cannot open {Naming.always s.name} for reading: {fault.wording}"

def fmt : Tool := fun job w =>
  Tool.withOptions table 1 (fun o job w =>
    let digit := o.given.find? fun g => g.1.toList.all Char.isDigit
    match digit, styleOf o with
    | some (digit, _), _ =>
      let message := s!"invalid option -- {digit}; -WIDTH is recognized only when it is the first"
      (Tool.misused job (message ++ "\noption; use -w N instead") 1, w)
    | none, .error message => (Tool.failing job message 1, w)
    | none, .ok style =>
      Tool.reading (fun _ job sources =>
        ⟨sources.filterMap (complaint job.name),
          concat ((Source.found sources).map fun e => format style e.2),
          Source.status sources⟩) o job w)
    { job with args := widthFirst job.args } w

end CommandShell.Paragraphs
