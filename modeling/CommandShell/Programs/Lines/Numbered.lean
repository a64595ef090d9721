import CommandShell.Programs.Amount
import CommandShell.Programs.Regex.Captures
import CommandShell.Programs.Regex.Reader
import CommandShell.Programs.Sources

/-!
# Numbered lines

The tool that puts numbers in front of lines. A text is made of pages, each with a header, a body
and a footer; a line that consists of section signs starts one of these parts. In each part a style
says which lines have a number.
-/
namespace CommandShell.Numbered
open Bytes

/-- Which lines have a number. -/
inductive Style
  | all
  | filled
  | none
  | matching (expression : Regex)

/-- How a number stands in its column. -/
inductive Side
  | left
  | right
  | zeros
  deriving DecidableEq

structure Numbering where
  header : Style
  body : Style
  footer : Style
  /-- The signs that a section line repeats; none if there are no sections. -/
  sign : List UInt8
  start : Int
  step : Int
  /-- So many empty lines in a row count as one. -/
  blanks : Nat
  side : Side
  width : Nat
  separator : String
  goesOn : Bool

inductive Section
  | header
  | body
  | footer
  deriving DecidableEq

/-- The part in which a line stands, its number, and how many empty lines came before it. -/
structure Position where
  section_ : Section
  number : Int
  blanks : Nat

namespace Numbering

def styleOf (n : Numbering) : Section → Style
  | .header => n.header
  | .body => n.body
  | .footer => n.footer

def section? (n : Numbering) (line : List UInt8) : Option Section :=
  if n.sign.length < 2 then none
  else if line = n.sign ++ n.sign ++ n.sign then some .header
  else if line = n.sign ++ n.sign then some .body
  else if line = n.sign then some .footer
  else none

def column (n : Numbering) (number : Int) : String :=
  let digits := toString number
  let pad (c : Char) : String := String.ofList (List.replicate (n.width - digits.length) c)
  match n.side with
  | .left => digits ++ pad ' '
  | .right => pad ' ' ++ digits
  | .zeros =>
    if number < 0 then "-" ++ pad '0' ++ toString number.natAbs else pad '0' ++ digits

/-- What stands in front of a line without a number. -/
def gap (n : Numbering) : String :=
  String.ofList (List.replicate (n.width + n.separator.utf8ByteSize) ' ')

def withNumber (n : Numbering) (p : Position) (line : List UInt8) : List UInt8 × Position :=
  (bytesOf (n.column p.number ++ n.separator) ++ line ++ [lineFeed],
    { p with number := p.number + n.step })

def withoutNumber (n : Numbering) (p : Position) (line : List UInt8) : List UInt8 × Position :=
  (bytesOf n.gap ++ line ++ [lineFeed], p)

def line (n : Numbering) (p : Position) (line : List UInt8) : List UInt8 × Position :=
  match n.section? line with
  | some s =>
    ([lineFeed], { p with section_ := s, number := if n.goesOn then p.number else n.start })
  | none =>
    match n.styleOf p.section_ with
    | .none => n.withoutNumber p line
    | .filled => if line = [] then n.withoutNumber p line else n.withNumber p line
    | .matching e => if e.occurs id line then n.withNumber p line else n.withoutNumber p line
    | .all =>
      if n.blanks ≤ 1 then n.withNumber p line
      else if line ≠ [] then n.withNumber { p with blanks := 0 } line
      else if p.blanks + 1 = n.blanks then n.withNumber { p with blanks := 0 } line
      else n.withoutNumber { p with blanks := p.blanks + 1 } line

def inRange (p : Position) : Bool := -(Nat.pow 2 63) ≤ p.number && p.number < Nat.pow 2 63

/-- Writes lines one after the other, and says whether the numbers have sufficed. -/
def write (n : Numbering) : Position → ByteArray → List (List UInt8) → ByteArray × Bool
  | _, done, [] => (done, true)
  | p, done, l :: rest =>
    let (out, q) := n.line p l
    if q.number ≠ p.number ∧ ¬ inRange p then (done, false)
    else write n q (out.foldl ByteArray.push done) rest

end Numbering

/-- Reads a style; `what` names the part it is for. -/
def readStyle (what text : String) : Except String Style :=
  match byteChars text with
  | ['a'] => .ok .all
  | ['t'] => .ok .filled
  | ['n'] => .ok .none
  | 'p' :: cs =>
    match RegexReader.read ⟨false, false⟩ cs with
    | .ok e => .ok (.matching e)
    | .error fault => .error fault.message
  | _ => .error s!"invalid {what} numbering style: {Naming.literal text}"

def numberOf (what : String) (least : Int) (text : String) : Except String Int :=
  match Amount.whole? text with
  | some n =>
    if least ≤ n ∧ n < Nat.pow 2 63 then .ok n
    else .error s!"invalid {what}: {Naming.literal text}: Numerical result out of range"
  | none => .error s!"invalid {what}: {Naming.literal text}"

def Numbering.ofOptions (o : Options) : Except String Numbering := do
  let value (key usual : String) : String := (o.value? key).getD usual
  let least : Int := -(Nat.pow 2 63)
  let side ← match value "n" "rn" with
    | "ln" => pure Side.left
    | "rn" => pure Side.right
    | "rz" => pure Side.zeros
    | text => throw s!"invalid line numbering format: {Naming.literal text}"
  let sign := bytesOf (value "d" "\\:")
  return {
    header := ← readStyle "header" (value "h" "n")
    body := ← readStyle "body" (value "b" "t")
    footer := ← readStyle "footer" (value "f" "n")
    sign := if sign.length = 1 then sign ++ [58] else sign
    start := ← numberOf "starting line number" least (value "v" "1")
    step := ← numberOf "line number increment" least (value "i" "1")
    blanks := (← numberOf "line number of blank lines" 1 (value "l" "1")).toNat
    side
    width := (← numberOf "line number field width" 1 (value "w" "6")).toNat
    separator := value "s" "\t"
    goesOn := o.has "p" }

def nl : Tool :=
  .reader (.of "b:d:f:h:i:l:n:ps:v:w:" ["body-numbering= b", "footer-numbering= f",
    "header-numbering= h", "join-blank-lines= l", "line-increment= i", "no-renumber p",
    "number-format= n", "number-separator= s", "number-width= w", "section-delimiter= d",
    "starting-line-number= v"]) 1 fun o job sources =>
    match Numbering.ofOptions o with
    | .error message => ⟨[s!"{job.name}: {message}"], .empty, 1⟩
    | .ok n =>
      let all := (Source.found sources).flatMap fun e => lines e.2
      let (output, enough) := n.write ⟨.body, n.start, 0⟩ .empty all
      let said := if enough then [] else [s!"{job.name}: line number overflow"]
      ⟨Source.complaints job.name sources ++ said, output,
        if enough then Source.status sources else 1⟩

end CommandShell.Numbered
