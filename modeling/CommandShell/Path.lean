import CommandShell.Text.Cut

/-!
# Paths in normal form

A path is an anchor and the names that follow it. Reading a path drops empty names and single dots
and keeps double dots, so two spellings of one path that differ in no more than that are one value.
Exactly two leading slashes are kept apart from one; three or more are one.
-/
namespace CommandShell
open Text

/-- Where a path starts. -/
inductive Anchor
  | here
  | root
  | doubleRoot
  deriving DecidableEq, Repr

structure Path where
  anchor : Anchor
  parts : List String
  deriving DecidableEq, Repr

namespace Path

def isSlash (c : Char) : Bool := c == '/'

def anchorOf (cs : List Char) : Anchor :=
  match (cs.takeWhile isSlash).length with
  | 0 => .here
  | 2 => .doubleRoot
  | _ => .root

/-- A name that a path keeps: neither empty nor a single dot. -/
def isPart (name : String) : Bool := name != "" && name != "."

def ofString (s : String) : Path :=
  ⟨anchorOf s.toList, ((cut isSlash s.toList).map String.ofList).filter isPart⟩

def Anchor.text : Anchor → String
  | .here => ""
  | .root => "/"
  | .doubleRoot => "//"

/-- The shortest text of a path; the path with no names and no root is a single dot. -/
def text (p : Path) : String :=
  if p.anchor = .here ∧ p.parts = [] then "."
  else Anchor.text p.anchor ++ String.intercalate "/" p.parts

instance : ToString Path := ⟨text⟩

/-- The path without its last name; a path without names is its own parent. -/
def parent (p : Path) : Path := { p with parts := p.parts.dropLast }

def child (p : Path) (name : String) : Path := { p with parts := p.parts ++ [name] }

/-- The names to be followed. The path without names stays where it is by way of a dot. -/
def steps (p : Path) : List String := if p.anchor = .here ∧ p.parts = [] then ["."] else p.parts

/-- No file can be reached under a path with a null character. -/
def hasNull (p : Path) : Bool := p.parts.any (·.contains '\x00')

@[simp] theorem parent_child (p : Path) (name : String) : (p.child name).parent = p := by
  simp [parent, child]

@[simp] theorem steps_child (p : Path) (name : String) :
    (p.child name).steps = p.parts ++ [name] := by
  simp [steps, child]

end Path
end CommandShell
