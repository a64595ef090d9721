import CommandShell.Journal
import CommandShell.Text.Lines
import CommandShell.Text.Utf8

/-!
# Input history

The lines that were entered, oldest first. A line that is blank or starts with a space is not
recorded, and a line equal to the last one is recorded once. A history with a limit keeps the
newest lines. It is stored as a text with one line per entry.
-/
namespace CommandShell
open Text

structure History where
  lines : List String
  limit : Int
  deriving DecidableEq, Repr

namespace History

/-- The number of lines that are kept where nothing else is said. -/
def usualLimit : Int := 1000

/-- The lines from the last `limit` on: all of them for a limit of zero, and all but the first `n`
for a limit of `-n`. -/
def lastLines (limit : Int) (lines : List String) : List String :=
  if 0 < limit then lines.drop (lines.length - limit.toNat) else lines.drop (-limit).toNat

def ofLines (lines : List String) (limit : Int) : History :=
  ⟨lastLines limit lines, limit⟩

def trimmed (h : History) : History :=
  if h.limit < h.lines.length then
    { h with lines := h.lines.drop (h.lines.length - h.limit).toNat }
  else h

/-- Whether a line is worth recording at all. -/
def isRecordable (line : String) : Bool :=
  !isBlankLine line && line.toList.head? != some ' '

/-- Records a line, and says whether it did. -/
def add (h : History) (line : String) : Bool × History :=
  if !isRecordable line then (false, h)
  else if h.lines.getLast? = some (trim line) then (false, h)
  else (true, trimmed { h with lines := h.lines ++ [trim line] })

def text (lines : List String) : String := unlines lines

/-- The lines of a stored history; those that are blank are left out. -/
def ofText (s : String) : List String := (splitLines (feedsOnly s)).filter (!isBlankLine ·)

theorem ofText_eq_filledLines (s : String) : ofText s = filledLines s := by
  rw [ofText, filter_splitLines, filledLines_feedsOnly]

end History

namespace World

/-- The lines of a stored history. A missing file holds none; neither does one that cannot be used,
and that is noted. -/
def loadLines (w : World) (path : Path) : Except Escape (List String × List Note) :=
  match w.read path with
  | .error (.system (.file .notFound _)) => .ok ([], [])
  | .error (.system e) => .ok ([], [.historyUnreadable path e.message])
  | .error e => .error e
  | .ok bytes =>
    match Utf8.decode bytes with
    | .error fault => .ok ([], [.historyUnreadable path fault.message])
    | .ok s => .ok (History.ofText s, [])

/-- Stores lines, in a folder that is made if it is missing. -/
def saveLines (w : World) (path : Path) (lines : List String) : Except Escape Unit × World :=
  match w.ensureFolder path.parent with
  | (.error e, w) => (.error e, w)
  | (.ok (), w) =>
    w.write .replace path (History.text lines).toByteArray

/-- Prepares the file of a history; false means to go on without it. -/
def ensureFile (w : World) (path : Option Path) : Except Escape (Bool × List Note) × World :=
  match path with
  | none => (.ok (false, [.folderUnknown]), w)
  | some path =>
    match w.ensureFolder path.parent with
    | (.error (.system e), w) => (.ok (false, [.uncreatable path e.message]), w)
    | (.error e, w) => (.error e, w)
    | (.ok (), w) =>
      match w.touch path with
      | (.error (.system e), w) => (.ok (false, [.uncreatable path e.message]), w)
      | (.error e, w) => (.error e, w)
      | (.ok (), w) => (.ok (true, []), w)

end World
end CommandShell
