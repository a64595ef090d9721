import CommandShell.Home
import CommandShell.World

/-!
# File name completion

The candidates for a text are the names in the folder that its part up to the last slash leads to,
as far as they start with the rest. They are shown after that part as it was typed, folders with a
slash at the end. Names that start with a dot are shown only to those who typed the dot.
-/
namespace CommandShell.Completion

/-- The part of a text up to its last slash, and the rest. -/
def split (text : String) : String × String :=
  let back := text.toList.reverse
  (String.ofList (back.dropWhile (· != '/')).reverse,
    String.ofList (back.takeWhile (· != '/')).reverse)

def startsWith (stem name : String) : Bool := stem.toList.isPrefixOf name.toList

def isHidden (name : String) : Bool := startsWith "." name

/-- Whether a name completes the beginning of one. -/
def completes (stem name : String) : Bool :=
  startsWith stem name && (!isHidden name || isHidden stem)

/-- The texts that complete a text. A folder that cannot be listed offers none; of a name that
cannot be looked at, as the path has become too long or names may not be looked up in the folder,
nobody can tell whether it is a folder's. -/
def candidates (w : World) (text : String) : Except Escape (List String) :=
  let (shown, stem) := split text
  let folder := Path.ofString (expandTilde w.homes shown)
  match w.list folder with
  | .error (.system _) => .ok []
  | .error e => .error e
  | .ok names =>
    (names.filter (completes stem)).mapM fun name =>
      (w.isFolder (folder.child name)).map fun leadsOn =>
        shown ++ name ++ if leadsOn then "/" else ""

inductive Fault
  | escaped (escape : Escape)
  | outOfRange
  deriving DecidableEq, Repr

def Fault.message : Fault → String
  | escaped e => e.message
  | outOfRange => "list index out of range"

/-- The member of a list at a position. Positions below zero count from the end; past the end there
is none. -/
def pick (xs : List String) (position : Int) : Except Fault (Option String) :=
  if 0 ≤ position then .ok xs[position.toNat]?
  else
    let fromStart := xs.length + position
    if 0 ≤ fromStart then .ok xs[fromStart.toNat]? else .error .outOfRange

def complete (w : World) (text : String) (position : Int) : Except Fault (Option String) :=
  match candidates w text with
  | .error e => .error (.escaped e)
  | .ok found => pick found position

end CommandShell.Completion
