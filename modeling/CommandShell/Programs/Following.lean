import CommandShell.World

/-!
# Texts as programs are given them

A text may say more than the path it is read as: with a slash or a lone dot at its end it only leads
to folders, and the text itself can be too long.
-/
namespace CommandShell.World

def namesFolder (text : String) : Bool :=
  match (Text.cut Path.isSlash text.toList).getLast? with
  | some [] => true
  | some ['.'] => true
  | _ => false

/-- Where a text leads, through a link at its end only if `last` says so. The empty text leads
nowhere. -/
def followFrom (w : World) (last : Bool) (text : String) : Except FileFault Spot :=
  if text = "" then .error .notFound
  else if longestPath < text.utf8ByteSize then .error .nameTooLong
  else
    let strict := namesFolder text
    match w.locateFrom (last || strict) (.ofString text) with
    | .ok (.file l f) => if strict then .error .notFolder else .ok (.file l f)
    | .ok (.device l d) => if strict then .error .notFolder else .ok (.device l d)
    | found => found

def follow (w : World) (text : String) : Except FileFault Spot := w.followFrom true text

/-- Where a text leads, with a link at its end as what it is. -/
def sight (w : World) (text : String) : Except FileFault Spot := w.followFrom false text

/-- Writes to the file to which a text leads; it is made if its place is free. -/
def save (w : World) (mode : WriteMode) (text : String) (bytes : ByteArray) :
    Except FileFault World := do
  match ← w.follow text, namesFolder text with
  | .free _, true => throw .isFolder
  | spot, _ =>
    match w.fill mode bytes (← w.sinkAt spot) with
    | (.ok (), w) => return w
    | (.error (.file fault _), _) => throw fault
    | (.error _, _) => throw .noSpace

def contents (w : World) (text : String) : Except FileFault ByteArray := do
  w.readAt (← w.follow text)

end CommandShell.World
