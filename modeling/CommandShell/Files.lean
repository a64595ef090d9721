import CommandShell.SystemError
import CommandShell.Path

/-!
# File trees

A file tree maps locations, which are lists of names below the root, to what stands there: folders,
files, links and devices. With it come the rules under which the host lets the shell at it: which
accesses are granted, by what stands where and under which mode, and how much of what is written to
an opened file is taken.

Looking a path up walks from folder to folder, as far as names may be looked up in them, through
links, and ends at a spot: a folder, a file, a device, or a free place in a folder. A working folder
may be removed while it is in use; then it is lost, nothing can be found or made in it, but the way
up from it still works.
-/
namespace CommandShell

/-- The names from the root down. -/
abbrev Location := List String

/-- Contents are compared byte by byte. -/
instance (priority := 2000) decidableEqBytes : DecidableEq ByteArray := ByteArray.instDecidableEq

/-- A file. Two locations with files of one identity are two names for one file. -/
structure FileData where
  bytes : ByteArray
  mode : Nat
  identity : Nat
  deriving DecidableEq

/-- A device takes what is written to it, or says that it is full; it is empty, or gives null bytes
without an end. The one for the terminal cannot be opened, as there is no terminal. -/
inductive Device
  | null
  | zero
  | full
  | terminal
  deriving DecidableEq, Repr

inductive Entry
  | folder (mode : Nat)
  | file (data : FileData)
  | link (target : String)
  | device (device : Device)
  deriving DecidableEq

namespace Entry

def folderMode : Nat := 0o755

def fileMode : Nat := 0o644

def usualFolder : Entry := .folder folderMode

end Entry

def Device.mode : Nat := 0o666

def FileData.runnable (f : FileData) : Bool := f.mode &&& 0o111 != 0

/-! ## The rules of the host -/

/-- What may be asked of what stands somewhere: to look a name up in a folder, to read, to write,
which for a folder is to make something in it, or to have the times set. -/
inductive Access
  | search
  | read
  | write
  | renew
  deriving DecidableEq, Repr

/-- Why an access is not granted. -/
inductive Denial
  | denied
  | notPermitted
  | readOnly
  | noSpace
  deriving DecidableEq, Repr

def Denial.fault : Denial → FileFault
  | denied => .denied
  | notPermitted => .notPermitted
  | readOnly => .readOnly
  | noSpace => .noSpace

/-- What a host grants to the shell, and how much it takes from it. -/
structure Rules where
  /-- Why an access to what stands at a location under a mode is refused, if it is. -/
  refuse : Location → Nat → Access → Option Denial
  /-- How many of the bytes that are written at a location behind those of the opened file are
  taken, and what is said about the others, if not all of them are. -/
  room : List (Location × Entry) → Location → ByteArray → ByteArray → Option (Nat × SystemError)
  /-- How many null bytes stand for those of a device that gives them without an end. -/
  nulls : Nat

namespace Rules

/-- The rules for those whom nothing is refused. -/
def privileged : Rules := ⟨fun _ _ _ => none, fun _ _ _ _ => none, 0⟩

/-- The bit of a mode that grants an access to those who do not own what has the mode. -/
def bit : Access → Nat
  | .search => 0o1
  | .read => 0o4
  | .write => 0o2
  | .renew => 0o2

/-- The rules for somebody who owns what stands at some of the locations. The modes decide, but the
owner may set the times under any mode. -/
def byMode (owns : Location → Bool) : Rules where
  refuse l mode access :=
    let granted := if owns l then access = .renew || (mode >>> 6) &&& bit access != 0
      else mode &&& bit access != 0
    if granted then none else some .denied
  room _ _ _ _ := none
  nulls := 0

def grant (rules : Rules) (l : Location) (mode : Nat) (access : Access) : Except FileFault Unit :=
  match rules.refuse l mode access with
  | none => .ok ()
  | some denial => .error denial.fault

end Rules

structure FileTree where
  entries : List (Location × Entry)
  rules : Rules

namespace FileTree

def ofEntries (entries : List (Location × Entry)) : FileTree := ⟨entries, .privileged⟩

/-- What stands at a location. The root is always a folder. -/
def get? (t : FileTree) (l : Location) : Option Entry :=
  if l = [] then some .usualFolder else (t.entries.find? (·.1 = l)).map Prod.snd

/-- Puts an entry at a location, in the place of what stood there. -/
def set (t : FileTree) (l : Location) (e : Entry) : FileTree :=
  { t with entries := (l, e) :: t.entries.filter (·.1 ≠ l) }

def remove (t : FileTree) (l : Location) : FileTree :=
  { t with entries := t.entries.filter fun e => ¬ l <+: e.1 }

/-- Gives a location and all below it another name. What stood there before is gone. -/
def move (t : FileTree) (source target : Location) : FileTree :=
  let rest := (t.remove target).remove source
  let moved := t.entries.filterMap fun e =>
    if source <+: e.1 then some (target ++ e.1.drop source.length, e.2) else none
  { t with entries := moved ++ rest.entries }

/-- Changes a file under all its names. -/
def rewrite (t : FileTree) (identity : Nat) (change : FileData → FileData) : FileTree :=
  { t with entries := t.entries.map fun e =>
      match e.2 with
      | .file f => if f.identity = identity then (e.1, .file (change f)) else e
      | _ => e }

def contentsOf (t : FileTree) (identity : Nat) : ByteArray :=
  (t.entries.findSome? fun e =>
    match e.2 with
    | .file f => if f.identity = identity then some f.bytes else none
    | _ => none).getD .empty

/-- An identity that no file has. -/
def freshIdentity (t : FileTree) : Nat :=
  t.entries.foldl (fun n e =>
    match e.2 with
    | .file f => max n (f.identity + 1)
    | _ => n) 0

def create (t : FileTree) (l : Location) (bytes : ByteArray) (mode : Nat) : FileTree :=
  t.set l (.file ⟨bytes, mode, t.freshIdentity⟩)

@[simp] theorem rules_set (t : FileTree) (l : Location) (e : Entry) :
    (t.set l e).rules = t.rules := rfl
@[simp] theorem rules_create (t : FileTree) (l : Location) (bytes : ByteArray) (mode : Nat) :
    (t.create l bytes mode).rules = t.rules := rfl
@[simp] theorem rules_rewrite (t : FileTree) (identity : Nat) (change : FileData → FileData) :
    (t.rewrite identity change).rules = t.rules := rfl

theorem get?_set (t : FileTree) (l m : Location) (e : Entry) (h : l ≠ []) :
    (t.set l e).get? m = if l = m then some e else t.get? m := by
  by_cases hm : m = []
  · subst hm; simp [get?, h]
  by_cases hlm : l = m
  · simp [get?, set, hlm, hm]
  · simp only [get?, hm, set, hlm, if_false, List.find?_cons]
    simp only [decide_false, List.find?_filter]
    congr 2
    funext x
    by_cases hx : x.1 = m
    · simp [hx, Ne.symm hlm]
    · simp [hx]

/-- The names directly below a location, in increasing order. -/
def names (t : FileTree) (l : Location) : List String :=
  ((t.entries.filter fun e => e.1 ≠ [] ∧ e.1.dropLast = l).filterMap fun e =>
    e.1.getLast?).mergeSort (fun a b => a ≤ b)

end FileTree

/-- A folder in use. The last `lost` names of its path have been removed. -/
structure Place where
  path : Location
  lost : Nat
  deriving DecidableEq, Repr

namespace Place

def top : Place := ⟨[], 0⟩

/-- The folder above; the root is above itself. -/
def up (p : Place) : Place := ⟨p.path.dropLast, p.lost - 1⟩

/-- After a location has been removed, whatever of the path lies at or below it is lost. -/
def afterRemoval (p : Place) (l : Location) : Place :=
  if l <+: p.path then ⟨p.path, max p.lost (p.path.length - l.length + 1)⟩ else p

/-- A folder that is not lost stays in use when it, or a folder above it, gets another name. -/
def afterMove (p : Place) (source target : Location) : Place :=
  if source <+: p.path ∧ source.length + p.lost ≤ p.path.length then
    ⟨target ++ p.path.drop source.length, p.lost⟩
  else p

end Place

/-- Where a path leads. -/
inductive Spot
  | folder (place : Place)
  | file (location : Location) (data : FileData)
  | device (location : Location) (device : Device)
  | link (location : Location) (target : String)
  | free (location : Location)

/-- The longest name, in bytes, that a folder can hold. -/
def longestName : Nat := 255

/-- The longest path, in bytes, that the host reads. -/
def longestPath : Nat := 4095

/-- How many links a path can lead through. -/
def mostLinks : Nat := 40

/-- How far following names gets: to a spot, or to a link in a folder, with the names that are still
to be followed. -/
inductive Walked
  | arrived (spot : Spot)
  | atLink (folder : Place) (location : Location) (target : String) (rest : List String)

namespace FileTree

/-- Whether the host grants an access to a folder in use. One that has been removed has no mode to
be asked for. -/
def admits (t : FileTree) (p : Place) (access : Access) : Except FileFault Unit :=
  if 0 < p.lost then .ok ()
  else
    match t.get? p.path with
    | some (.folder mode) => t.rules.grant p.path mode access
    | _ => .error .notFound

/-- Follows names from a folder up to the first link. -/
def walk (t : FileTree) : Place → List String → Except FileFault Walked
  | p, [] => .ok (.arrived (.folder p))
  | p, name :: rest =>
    match t.admits p .search with
    | .error fault => .error fault
    | .ok () =>
      if name = "." then t.walk p rest
      else if name = ".." then t.walk p.up rest
      else if 0 < p.lost then .error .notFound
      else if longestName < name.utf8ByteSize then .error .nameTooLong
      else
        let l := p.path ++ [name]
        match t.get? l, rest with
        | none, [] => .ok (.arrived (.free l))
        | none, _ => .error .notFound
        | some (.folder _), _ => t.walk ⟨l, 0⟩ rest
        | some (.link target), _ => .ok (.atLink p l target rest)
        | some (.file data), [] => .ok (.arrived (.file l data))
        | some (.device d), [] => .ok (.arrived (.device l d))
        | some _, _ => .error .notFolder

def start (here : Place) : Anchor → Place
  | .here => here
  | _ => .top

/-- Follows names from a folder through at most as many links as `links` says, short of one. A link
at the very end is followed if `last` says so. -/
def find (t : FileTree) (last : Bool) : Nat → Place → List String → Except FileFault Spot
  | 0, _, _ => .error .tooManyLinks
  | links + 1, p, names =>
    match t.walk p names with
    | .error fault => .error fault
    | .ok (.arrived spot) => .ok spot
    | .ok (.atLink folder l target rest) =>
      if rest = [] ∧ ¬ last then .ok (.link l target)
      else
        let path := Path.ofString target
        t.find last links (start folder path.anchor) (path.parts ++ rest)

end FileTree
end CommandShell
