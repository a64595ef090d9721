import CommandShell.Programs.Bytes

/-!
# Names in reports

A name is shown between apostrophes in such a way that a script reads it back. Bytes that do not
show are written as escapes between apostrophes that a dollar sign opens. A name with an apostrophe
and nothing else that a script would notice is shown between double quotes instead.
-/
namespace CommandShell.Naming
open Bytes

def namedEscape? (b : UInt8) : Option Char :=
  match b.toNat with
  | 7 => some 'a'
  | 8 => some 'b'
  | 9 => some 't'
  | 10 => some 'n'
  | 11 => some 'v'
  | 12 => some 'f'
  | 13 => some 'r'
  | _ => none

def threeOctal (n : Nat) : String :=
  String.ofList [Nat.digitChar (n / 64 % 8), Nat.digitChar (n / 8 % 8), Nat.digitChar (n % 8)]

def escapeOf (b : UInt8) : String :=
  match namedEscape? b with
  | some c => "\\" ++ c.toString
  | none => "\\" ++ threeOctal b.toNat

def shows (b : UInt8) : Bool := 32 ≤ b && b ≤ 126

def charOf (b : UInt8) : Char := Char.ofNat b.toNat

/-- Characters that mean nothing to a script wherever they stand between quotes of either kind. -/
def isHarmless (c : Char) : Bool :=
  c.isAlphanum || "%+,-./:]_ '".contains c

def isActive (alone : Bool) (position : Nat) (c : Char) : Bool :=
  if c = '{' || c = '\x7d' then alone
  else if c = '#' || c = '~' then position = 0
  else " !\"$&()*;<=>[^|\\'?".contains c || c.toNat = 96

/-- The text between apostrophes; `escaping` says whether an escape is under way. -/
def between (escaping : Bool) : List UInt8 → String
  | [] => ""
  | b :: rest =>
    if shows b then
      let closing := if escaping then "''" else ""
      let shown := if b = 39 then "'\\''" else (charOf b).toString
      closing ++ shown ++ between false rest
    else
      (if escaping then "" else "'$'") ++ escapeOf b ++ between true rest

def quotedBytes (bytes : List UInt8) : String :=
  if bytes.contains 39 && bytes.all fun b => isHarmless (charOf b) then
    "\"" ++ String.ofList (bytes.map charOf) ++ "\""
  else "'" ++ between false bytes ++ "'"

def always (name : String) : String := quotedBytes (bytesOf name)

def needsQuotes (colon : Bool) (bytes : List UInt8) : Bool :=
  bytes.isEmpty || bytes.zipIdx.any fun e =>
    !shows e.1 || isActive (bytes.length = 1) e.2 (charOf e.1) || (colon && e.1 = 58)

/-- A name with quotes only where it needs them; a colon needs them too. -/
def ifNeeded (name : String) : String :=
  let bytes := bytesOf name
  if needsQuotes true bytes then quotedBytes bytes else name

/-- A text between apostrophes, with escapes for what does not show. -/
def literal (text : String) : String :=
  let shown (b : UInt8) : String :=
    if b = 39 then "\\'" else if b = 92 then "\\\\"
    else if shows b then (charOf b).toString else escapeOf b
  "'" ++ String.join ((bytesOf text).map shown) ++ "'"

end CommandShell.Naming
