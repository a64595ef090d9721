/-!
# Lines of bytes

Programs see bytes. A line ends at a line feed; a last piece without one counts as a line.
-/
namespace CommandShell.Bytes

def lineFeed : UInt8 := 10

/-- One byte in front of lines that have been cut already. -/
def lineStep (b : UInt8) : List (List UInt8) → List (List UInt8)
  | [] => if b = lineFeed then [[], []] else [[b]]
  | line :: rest => if b = lineFeed then [] :: line :: rest else (b :: line) :: rest

/-- The pieces between line feeds; the last one is empty if the bytes end in a line feed. -/
def pieces (bytes : ByteArray) : List (List UInt8) := bytes.toList.foldr lineStep [[]]

/-- The lines, without their line feeds. -/
def lines (bytes : ByteArray) : List (List UInt8) :=
  let all := pieces bytes
  if all.getLast? = some [] then all.dropLast else all

/-- One byte in front of chunks that have been cut already. -/
def chunkStep (b : UInt8) : List (List UInt8) → List (List UInt8)
  | [] => [[b]]
  | chunk :: rest => if b = lineFeed then [b] :: chunk :: rest else (b :: chunk) :: rest

/-- The lines with the line feeds that end them; the last one may do without. -/
def chunks (bytes : ByteArray) : List (List UInt8) := bytes.toList.foldr chunkStep []

/-- The bytes of pieces, one after the other. -/
def join (pieces : List (List UInt8)) : ByteArray :=
  pieces.foldl (fun out piece => piece.foldl ByteArray.push out) .empty

def unlines (lines : List (List UInt8)) : ByteArray :=
  lines.foldl (fun out line => (line.foldl ByteArray.push out).push lineFeed) .empty

/-- The order of lines by their bytes; a beginning goes before what it begins. -/
def precedes : List UInt8 → List UInt8 → Bool
  | [], _ => true
  | _ :: _, [] => false
  | a :: x, b :: y => if a = b then precedes x y else a < b

def sorted (lines : List (List UInt8)) : List (List UInt8) := lines.mergeSort precedes

/-- The bytes from one position up to another, as far as there are any. -/
def slice (bytes : ByteArray) (start stop : Nat) : ByteArray :=
  bytes.extract (min start bytes.size) (min stop bytes.size)

/-- Bytes with others in their place from a position on; a gap in front of them is filled with null
bytes. -/
def overwrite (old : ByteArray) (position : Nat) (new : ByteArray) : ByteArray :=
  if new.isEmpty then old
  else
    let gap : ByteArray := ⟨Array.replicate (position - old.size) 0⟩
    slice old 0 position ++ gap ++ new ++ slice old (position + new.size) old.size

def concat (parts : List ByteArray) : ByteArray := parts.foldl (· ++ ·) .empty

def ofText (s : String) : ByteArray := s.toByteArray

/-- The bytes of a text, one after the other. -/
def bytesOf (s : String) : List UInt8 := (ofText s).toList

/-- A small letter in its capital form; other bytes stay. -/
def toUpper (b : UInt8) : UInt8 := if 97 ≤ b ∧ b ≤ 122 then b - 32 else b

/-- A capital letter in its small form; other bytes stay. -/
def toLower (b : UInt8) : UInt8 := if 65 ≤ b ∧ b ≤ 90 then b + 32 else b

def mapBytes (f : UInt8 → UInt8) (bytes : ByteArray) : ByteArray :=
  (bytes.toList.map f).toByteArray

def hexValue (c : Char) : Nat :=
  if c.isDigit then c.toNat - 48
  else if 'a' ≤ c ∧ c ≤ 'f' then c.toNat - 87
  else if 'A' ≤ c ∧ c ≤ 'F' then c.toNat - 55
  else 0

def ofHex : List Char → List UInt8
  | a :: b :: rest => UInt8.ofNat (16 * hexValue a + hexValue b) :: ofHex rest
  | _ => []

end CommandShell.Bytes
