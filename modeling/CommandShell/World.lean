import CommandShell.Files
import CommandShell.Home

/-!
# The world of the shell

The files, the working folder, the home folders and what has been printed. Every operation on files
resolves its path against the working folder of that moment, asks the rules of the host for the
accesses that it needs, and either fails with the reason or gives the next world. An operation that
can fail half-way says so beside the world it leaves.
-/
namespace CommandShell

structure World where
  files : FileTree
  place : Place
  /-- The working folders of those who wait for another program to end. -/
  waiting : List Place
  /-- The permissions that new files and folders do not get. -/
  mask : Nat
  /-- The signals that programs do not answer. -/
  ignored : List Nat
  homes : Homes
  printed : String

namespace World

/-- A world that begins in the root folder, with files of which nothing is refused. -/
def ofEntries (entries : List (Location × Entry)) : World :=
  ⟨.ofEntries entries, .top, [], 0, [], .unknown, ""⟩

/-- A mode without the permissions that new files and folders do not get. -/
def masked (w : World) (mode : Nat) : Nat := mode - (mode &&& w.mask)

/-- The mode of a new file for which nothing else is asked. -/
def fileMode (w : World) : Nat := w.masked 0o666

def newFolder (w : World) : Entry := .folder (w.masked 0o777)

end World

/-- Whether writing to a file replaces its contents or goes on after them. -/
inductive WriteMode
  | replace
  | extend
  deriving DecidableEq, Repr

/-- The contents of a file that has been opened. -/
def WriteMode.held (mode : WriteMode) (old : ByteArray) : ByteArray :=
  match mode with
  | replace => .empty
  | extend => old

/-- The contents of a file after bytes have been written to it. -/
def WriteMode.apply (mode : WriteMode) (old new : ByteArray) : ByteArray := mode.held old ++ new

def Device.opened : Device → Except FileFault Device
  | .terminal => .error .noDevice
  | d => .ok d

/-- What can be read of a device, some null bytes standing for those that have no end. -/
def Device.bytes (nulls : Nat) : Device → ByteArray
  | .zero => ⟨Array.replicate nulls 0⟩
  | .full => ⟨Array.replicate nulls 0⟩
  | _ => .empty

/-- Whether a device takes bytes; the full one takes none. -/
def Device.takes (d : Device) (bytes : ByteArray) : Bool := d ≠ .full || bytes.isEmpty

namespace World

def print (w : World) (s : String) : World := { w with printed := w.printed ++ s }

def say (w : World) (s : String) : World := w.print (s ++ "\n")

/-- The path of the working folder; none when it has been removed. -/
def folderText (w : World) : Option String :=
  if w.place.lost = 0 then some ("/" ++ String.intercalate "/" w.place.path) else none

def origin (w : World) (a : Anchor) : Place := FileTree.start w.place a

/-- Where a path leads, through a link at its end only if `last` says so. -/
def locateFrom (w : World) (last : Bool) (p : Path) : Except FileFault Spot :=
  if longestPath < p.text.utf8ByteSize then .error .nameTooLong
  else w.files.find last (mostLinks + 1) (w.origin p.anchor) p.steps

/-- Where a path leads. -/
def locate (w : World) (p : Path) : Except FileFault Spot := w.locateFrom true p

def failure (p : Path) (fault : FileFault) : Escape := .system (.file fault (some p.text))

/-- The bytes to be read at a spot. A folder is opened before it turns out to be one. -/
def readAt (w : World) : Spot → Except FileFault ByteArray
  | .folder place =>
    match w.files.admits place .read with
    | .error fault => .error fault
    | .ok () => .error .isFolder
  | .free _ => .error .notFound
  | .link .. => .error .tooManyLinks
  | .device l d =>
    match w.files.rules.grant l Device.mode .read with
    | .error fault => .error fault
    | .ok () => d.opened.map (Device.bytes w.files.rules.nulls)
  | .file l f => (w.files.rules.grant l f.mode .read).map fun _ => f.bytes

def read (w : World) (p : Path) : Except Escape ByteArray :=
  if p.hasNull then .error .nullCharacter
  else
    match w.locate p with
    | .error fault => .error (failure p fault)
    | .ok spot => (w.readAt spot).mapError (failure p)

/-- The identity of the file to which a path leads. -/
def identity? (w : World) (p : Path) : Option Nat :=
  match w.locate p with
  | .ok (.file _ f) => some f.identity
  | _ => none

/-- What has been opened for writing: a file, the place of one that is made, or a device. -/
inductive Sink
  | file (location : Location) (data : FileData)
  | fresh (location : Location)
  | device (device : Device)

/-- Opens what stands at a spot for writing. In a free place a file is made. -/
def sinkAt (w : World) : Spot → Except FileFault Sink
  | .folder _ => .error .isFolder
  | .link .. => .error .tooManyLinks
  | .device l d =>
    match w.files.rules.grant l Device.mode .write with
    | .error fault => .error fault
    | .ok () => d.opened.map .device
  | .free l => (w.files.admits ⟨l.dropLast, 0⟩ .write).map fun _ => .fresh l
  | .file l f => (w.files.rules.grant l f.mode .write).map fun _ => .file l f

end World

/-- How much of the bytes that are written behind those of an opened file is taken. -/
def FileTree.taken (t : FileTree) (l : Location) (held new : ByteArray) :
    Except SystemError Unit × ByteArray :=
  match t.rules.room t.entries l held new with
  | none => (.ok (), new)
  | some (size, error) => (.error error, new.extract 0 size)

namespace World

/-- Writes to what has been opened. -/
def fill (w : World) (mode : WriteMode) (bytes : ByteArray) :
    Sink → Except SystemError Unit × World
  | .file l f =>
    let (done, taken) := w.files.taken l (mode.held f.bytes) bytes
    (done, { w with files := w.files.rewrite f.identity fun f =>
              { f with bytes := mode.apply f.bytes taken } })
  | .fresh l =>
    let (done, taken) := w.files.taken l .empty bytes
    (done, { w with files := w.files.create l taken w.fileMode })
  | .device d => (if d.takes bytes then .ok () else .error (.file .noSpace none), w)

/-- Opens a file for writing, which is made if its place is free. -/
def openToWrite (w : World) (p : Path) : Except Escape Sink :=
  if p.hasNull then .error .nullCharacter
  else
    match w.locate p with
    | .error fault => .error (failure p fault)
    | .ok spot => (w.sinkAt spot).mapError (failure p)

/-- Whether a file can be opened for writing. -/
def opens (w : World) (p : Path) : Bool := (w.openToWrite p).isOk

/-- Writes to a file. That not everything is taken is found out after it has been opened, and is no
fault of its path. -/
def write (w : World) (mode : WriteMode) (p : Path) (bytes : ByteArray) :
    Except Escape Unit × World :=
  match w.openToWrite p with
  | .error e => (.error e, w)
  | .ok sink => ((w.fill mode bytes sink).1.mapError .system, (w.fill mode bytes sink).2)

/-- Faults of a path that leads nowhere. -/
def leadsNowhere : FileFault → Bool
  | .notFound => true
  | .notFolder => true
  | .tooManyLinks => true
  | _ => false

/-- Whether a path leads to a folder. A path that leads nowhere does not. -/
def isFolder (w : World) (p : Path) : Except Escape Bool :=
  if p.hasNull then .ok false
  else
    match w.locate p with
    | .ok (.folder _) => .ok true
    | .ok _ => .ok false
    | .error fault => if leadsNowhere fault then .ok false else .error (failure p fault)

/-- Whether a path leads to a file with contents of its own. -/
def isFile (w : World) (p : Path) : Except Escape Bool :=
  if p.hasNull then .ok false
  else
    match w.locate p with
    | .ok (.file ..) => .ok true
    | .ok _ => .ok false
    | .error fault => if leadsNowhere fault then .ok false else .error (failure p fault)

/-- Makes one folder, whose parent must be there. -/
def makeFolder (w : World) (p : Path) : Except FileFault World :=
  match w.locateFrom false p with
  | .error fault => .error fault
  | .ok (.free l) =>
    match w.files.admits ⟨l.dropLast, 0⟩ .write with
    | .error fault => .error fault
    | .ok () => .ok { w with files := w.files.set l w.newFolder }
  | .ok _ => .error .alreadyThere

/-- A folder that could not be made is no failure when it is there. -/
def acceptFolder (w : World) (p : Path) (fault : FileFault) : Except Escape Unit :=
  match w.isFolder p with
  | .error e => .error e
  | .ok true => .ok ()
  | .ok false => .error (failure p fault)

/-- Makes a folder under a parent that is thought to be there. -/
def ensureLastFolder (w : World) (p : Path) : Except Escape Unit × World :=
  match w.makeFolder p with
  | .ok w => (.ok (), w)
  | .error .notFound => (.error (failure p .notFound), w)
  | .error fault => (w.acceptFolder p fault, w)

/-- Makes the folder with the first `depth` names of a path, and those above it that are missing. -/
def ensureFolderTo (w : World) (p : Path) : Nat → Except Escape Unit × World
  | 0 => w.ensureLastFolder { p with parts := [] }
  | depth + 1 =>
    let q : Path := { p with parts := p.parts.take (depth + 1) }
    match w.makeFolder q with
    | .ok w => (.ok (), w)
    | .error .notFound =>
      match w.ensureFolderTo p depth with
      | (.error e, w) => (.error e, w)
      | (.ok (), w) => w.ensureLastFolder q
    | .error fault => (w.acceptFolder q fault, w)

/-- Makes a folder and those above it that are missing. -/
def ensureFolder (w : World) (p : Path) : Except Escape Unit × World :=
  if p.hasNull then (.error .nullCharacter, w) else w.ensureFolderTo p p.parts.length

/-- Whether the times of what stands at a spot can be set. -/
def renews (w : World) : Spot → Bool
  | .folder place => (w.files.admits place .renew).isOk
  | .file l f => (w.files.rules.grant l f.mode .renew).isOk
  | .device l _ => (w.files.rules.grant l Device.mode .renew).isOk
  | .link .. => false
  | .free _ => false

/-- Makes an empty file where nothing stands. What stands there has its times set, or else is opened
for writing. -/
def touch (w : World) (p : Path) : Except Escape Unit × World :=
  if p.hasNull then (.error .nullCharacter, w)
  else
    match w.locate p with
    | .error fault => (.error (failure p fault), w)
    | .ok spot =>
      if w.renews spot then (.ok (), w)
      else
        match w.sinkAt spot with
        | .error fault => (.error (failure p fault), w)
        | .ok (.fresh l) => (.ok (), { w with files := w.files.create l .empty w.fileMode })
        | .ok _ => (.ok (), w)

/-- The names in a folder, in increasing order. -/
def list (w : World) (p : Path) : Except Escape (List String) :=
  if p.hasNull then .error .nullCharacter
  else
    match w.locate p with
    | .error fault => .error (failure p fault)
    | .ok (.folder place) =>
      match w.files.admits place .read with
      | .error fault => .error (failure p fault)
      | .ok () =>
        if place.lost = 0 then .ok (w.files.names place.path) else .error (failure p .notFound)
    | .ok (.free _) => .error (failure p .notFound)
    | .ok _ => .error (failure p .notFolder)

/-- Moves to a folder. -/
def enter (w : World) (p : Path) : Except Escape World :=
  if p.hasNull then .error .nullCharacter
  else
    match w.locate p with
    | .error fault => .error (failure p fault)
    | .ok (.folder place) =>
      match w.files.admits place .search with
      | .error fault => .error (failure p fault)
      | .ok () => .ok { w with place }
    | .ok (.free _) => .error (failure p .notFound)
    | .ok _ => .error (failure p .notFolder)

/-- Takes away what stands at a location, and all below it. -/
def discard (w : World) (l : Location) : World :=
  { w with
    files := w.files.remove l
    place := w.place.afterRemoval l
    waiting := w.waiting.map (·.afterRemoval l) }

def relocate (w : World) (source target : Location) : World :=
  let w := w.discard target
  { w with
    files := w.files.move source target
    place := w.place.afterMove source target
    waiting := w.waiting.map (·.afterMove source target) }

end World
end CommandShell
