import CommandShell.Programs.Folders.Modes
import CommandShell.Programs.Folders.Moving

/-!
# Copying

Copies of files, and of folders with all that is in them. A copy of a file over another keeps what
the other is and changes its contents. A folder that is copied into itself is left out of its own
copy.
-/
namespace CommandShell.Copying
open NameText Moving

/-- Which links are followed. -/
inductive Following
  | all
  | operands
  | none
  deriving DecidableEq

/-- What a copy of a file is. -/
inductive CopyKind
  | contents
  | secondName
  | link
  deriving DecidableEq

/-- Which mode a copy gets. -/
inductive CopiedMode
  /-- The permissions of its source without what new files do not get; a file that is there keeps
  its own. -/
  | usual
  /-- That of its source. -/
  | kept
  /-- That of a new file; a file that is there keeps its own. -/
  | fresh
  deriving DecidableEq

/-- The mode of something new, which could have all of `full`. -/
def CopiedMode.of (m : CopiedMode) (w : World) (mode full : Nat) : Nat :=
  match m with
  | usual => w.masked (mode &&& 0o777)
  | kept => mode
  | fresh => w.masked full

/-- What copies keep of their sources. -/
structure Kept where
  modes : CopiedMode
  /-- Whether names of one file stay names of one file. -/
  names : Bool

structure Copy where
  recursive : Bool
  following : Following
  kind : CopyKind
  overwriting : Overwriting
  verbose : Bool
  /-- Whether a file that stands in the way is taken away first. -/
  removesFirst : Bool
  /-- Whether that goes for another name of the source too. -/
  removesNames : Bool
  emptyOnly : Bool
  kept : Kept
  backup : Option (Backup × String)

/-- How far copying has come: the locations that have been filled, the folders that have been made,
the operand with its target that are under way, and whether it has met its own copy. -/
structure Copied where
  progress : Progress
  filled : List Location
  /-- The files that have been copied, and where their copies are. -/
  copies : List (Nat × Location)
  folders : List Location
  top : String × String
  metItself : Bool

def Copied.on (s : Copied) (f : Progress → Progress) : Copied := { s with progress := f s.progress }

def tell (c : Copy) (source target : String) (kept : Option String) (p : Progress) : Progress :=
  if c.verbose then
    let more := match kept with
      | some name => s!" (backup: {Naming.always name})"
      | none => ""
    p.print s!"{Naming.always source} -> {Naming.always target}{more}"
  else p

def keep (c : Copy) (target : String) (k : Location) (p : Progress) : Option String × Progress :=
  match c.backup with
  | none => (none, p)
  | some (b, suffix) =>
    let name := b.name suffix p.world target
    match p.world.locationOf? name with
    | some free => (some name, p.into (p.world.relocate k free))
    | none => (none, p)

/-- Writes the contents of a file over a file, or to a new place. -/
def writeFile (c : Copy) (source target : String) (bytes : ByteArray) (mode : Nat) (s : Copied) :
    Copied :=
  let p := s.progress
  let what := s!"cannot create regular file {Naming.always target}"
  let bytes := if c.emptyOnly then .empty else bytes
  match p.world.follow target, p.world.sight target with
  | .error f, _ => s.on (·.fault what f)
  | .ok (.free _), .ok (.link ..) =>
    s.on (·.complain s!"not writing through dangling symlink {Naming.always target}")
  | .ok (.free l), _ =>
    if World.namesFolder target then s.on (·.fault what .notFolder)
    else
      { s with
        progress := p.into { p.world with
          files := p.world.files.create l bytes (c.kept.modes.of p.world mode 0o666) }
        filled := l :: s.filled }
  | .ok (.file l f), _ =>
    { s with
      progress := p.into { p.world with files := p.world.files.rewrite f.identity fun f =>
        { f with
          bytes := if c.emptyOnly then f.bytes else bytes
          mode := if c.kept.modes = .kept then mode else f.mode } }
      filled := l :: s.filled }
  | .ok (.device _ d), _ =>
    match d.opened with
    | .error fault => s.on (·.fault s!"cannot create regular file {Naming.always target}" fault)
    | .ok d =>
      if d.takes bytes then s
      else s.on (·.fault s!"error writing {Naming.always target}" .noSpace)
  | .ok (.folder _), _ =>
    s.on (·.complain (Targets.fileOverFolder target source))
  | .ok (.link ..), _ => s.on (·.fault what .tooManyLinks)

/-- Puts an entry as it is at a free place. -/
def putEntry (target : String) (e : Entry) (s : Copied) : Copied :=
  let p := s.progress
  match p.world.sight target with
  | .ok (.free l) =>
    { s with
      progress := p.into { p.world with files := p.world.files.set l e }
      filled := l :: s.filled }
  | .ok _ => s.on (·.fault s!"cannot create {Naming.always target}" .alreadyThere)
  | .error f => s.on (·.fault s!"cannot create {Naming.always target}" f)

/-- The text of a link in the folder of a target that leads to a source. -/
def linkText? (source target : String) : Option String :=
  if source.toList.head? = some '/' ∨ ¬ (trimmed target).toList.contains '/' then some source
  else none

/-- What stands in the way of a file: whether copying goes on, whether it is gone, and the name
under which it was kept. -/
def makeWay (c : Copy) (top : Bool) (source target : String) (e : Entry) (s : Copied) :
    Bool × Option String × Copied :=
  let p := s.progress
  let spot := if c.kind = .contents ∧ ¬ isLink e ∧ ¬ c.removesFirst ∧ c.backup = none then
      match p.world.follow target with
      | .ok (.file l f) => some (l, Entry.file f)
      | .ok (.folder place) => some (place.path, .usualFolder)
      | _ => none
    else p.world.entryOf? target
  match spot with
  | none => (true, none, s)
  | some (k, there) =>
    let pair := s!"{Naming.always source} and {Naming.always target}"
    let same : Bool := match e, there with
      | .file f, .file g => f.identity == g.identity
      | .link _, .file g => c.backup.isNone && !c.removesFirst && (match p.world.follow source with
        | .ok (.file _ f) => f.identity == g.identity
        | _ => false)
      | _, _ => p.world.locationOf? source == some k
    let apart : Bool := (c.backup.isSome || (c.removesFirst && c.removesNames)) &&
      p.world.locationOf? source != some k
    if same ∧ ¬ apart ∧ c.kind ≠ .secondName then
      (false, none, s.on (·.complain s!"{pair} are the same file"))
    else if same ∧ c.kind = .secondName then (false, none, s)
    else if c.overwriting = .never then (false, none, s)
    else
      let (willing, p) :=
        if c.overwriting = .asked then p.ask s!"overwrite {Naming.always target}" else (true, p)
      let s := { s with progress := p }
      if !willing then (false, none, s)
      else if isFolderEntry there then
        (false, none, s.on (·.complain (Targets.fileOverFolder target source)))
      else if top ∧ c.backup = none ∧ s.filled.contains k then
        (false, none, s.on (·.complain
          s!"will not overwrite just-created {Naming.always target} with {Naming.always source}"))
      else
        let (kept, p) := keep c target k p
        let s := { s with progress := p }
        if kept.isSome then (true, kept, s)
        else if c.removesFirst then
          let p := p.into (p.world.discard k)
          (true, none, { s with
            progress := if c.verbose then p.print s!"removed {Naming.always target}" else p })
        else if c.kind ≠ .contents then
          let kind := if c.kind = .link then "symbolic" else "hard"
          (false, none, s.on (·.fault s!"cannot create {kind} link {Naming.always target}"
            .alreadyThere))
        else if isLink e then (true, none, { s with progress := p.into (p.world.discard k) })
        else (true, none, s)
where
  isLink : Entry → Bool
    | .link _ => true
    | _ => false

/-- Copies the contents of a file, or gives the copy that there is of it another name. -/
def copyFile (c : Copy) (source target : String) (f : FileData) (s : Copied) : Copied :=
  let files := s.progress.world.files
  let earlier := if c.kept.names then (s.copies.lookup f.identity).bind files.get? else none
  match earlier, s.progress.world.sight target with
  | some e, .ok (.free _) => putEntry target e s
  | some e, .ok (.file l _) => putEntry target e (s.on fun p => p.into (p.world.discard l))
  | _, _ =>
    let s := writeFile c source target f.bytes f.mode s
    match s.progress.world.locationOf? target with
    | some l => { s with copies := (f.identity, l) :: s.copies }
    | none => s

def copyLeaf (c : Copy) (top : Bool) (source target : String) (e : Entry) (s : Copied) : Copied :=
  match makeWay c top source target e s with
  | (false, _, s) => s
  | (true, kept, s) =>
    let s := s.on (tell c source target kept)
    match c.kind, e with
    | .link, _ =>
      match linkText? source target with
      | some text => putEntry target (.link text) s
      | none =>
        s.on (·.complain
          s!"{Naming.ifNeeded target}: can make relative symbolic links only in current directory")
    | .secondName, e => putEntry target e s
    | .contents, .file f => copyFile c source target f s
    | .contents, .device d =>
      match d.opened.map (Device.bytes s.progress.world.files.rules.nulls) with
      | .error fault => s.on (·.fault s!"cannot open {Naming.always source} for reading" fault)
      | .ok bytes => writeFile c source target bytes 0o666 s
    | .contents, e => putEntry target e s

/-- Copies one entry; `fuel` bounds the depth. -/
def copyAt (c : Copy) : Nat → Bool → String → String → Copied → Copied
  | 0, _, _, _, s => s
  | fuel + 1, top, source, target, s =>
    let p := s.progress
    let follows := match c.following with
      | .all => true
      | .operands => top
      | .none => false
    let cannotStat (f : FileFault) : Copied :=
      s.on (·.fault s!"cannot stat {Naming.always source}" f)
    match p.world.followFrom follows source with
    | .error f => cannotStat f
    | .ok (.free _) => cannotStat .notFound
    | .ok (.file _ f) => copyLeaf c top source target (.file f) s
    | .ok (.link _ text) => copyLeaf c top source target (.link text) s
    | .ok (.device _ d) => copyLeaf c top source target (.device d) s
    | .ok (.folder place) =>
      if !c.recursive then
        s.on (·.complain s!"-r not specified; omitting directory {Naming.ifNeeded source}")
      else
        let below (s : Copied) : Copied :=
          let isNew (name : String) : Bool := s.folders.contains (place.path ++ [name])
          let names := s.progress.world.files.names place.path
          (names.filter (!isNew ·) ++ names.filter isNew).foldl (fun s name =>
            if s.metItself then s
            else copyAt c fuel false (joined source name) (joined target name) s) s
        if s.folders.contains place.path then
          let pair := s!"{Naming.always s.top.1}, into itself, {Naming.always s.top.2}"
          { s.on (·.complain s!"cannot copy a directory, {pair}") with metItself := true }
        else
          let what := s!"cannot create directory {Naming.always target}"
          match p.world.sight target with
          | .error f => s.on (·.fault what f)
          | .ok (.free l) =>
            let mode := c.kept.modes.of p.world (p.world.modeAt place.path) 0o777
            let p := p.into { p.world with files := p.world.files.set l (.folder mode) }
            let p := tell c source target none p
            below { s with progress := p, folders := l :: s.folders }
          | .ok (.folder there) =>
            if there.path = place.path ∧ top then
              s.on (·.complain
                s!"{Naming.always source} and {Naming.always target} are the same file")
            else below s
          | .ok _ =>
            s.on (·.complain (Targets.folderOverFile target source))

/-- Makes the folders of a source below a target folder. -/
def makeParents (c : Copy) (folder source : String) (s : Copied) : Copied :=
  let cs := (trimmed source).toList
  let beginnings := (List.range cs.length).filterMap fun n =>
    if 0 < n ∧ cs[n]? = some '/' ∧ cs[n - 1]? ≠ some '/' then some (String.ofList (cs.take n))
    else none
  beginnings.foldl (fun s name =>
    let target := joined folder name
    let p := s.progress
    match p.world.follow target with
    | .ok (.free l) =>
      let mode := c.kept.modes.of p.world (match p.world.follow name with
        | .ok (.folder place) => p.world.modeAt place.path
        | _ => Entry.folderMode) 0o777
      let p := p.into { p.world with files := p.world.files.set l (.folder mode) }
      let p := if c.verbose then p.print s!"{name} -> {target}" else p
      { s with progress := p, folders := l :: s.folders }
    | _ => s) s

def followingOf (o : Options) (recursive : Bool) (kind : CopyKind) : Following :=
  match o.lastKey? ["L", "H", "P", "d", "a"] with
  | some "L" => .all
  | some "H" => .operands
  | some _ => .none
  | none => if recursive ∧ kind ≠ .secondName then .none else .all

def attributes : List String :=
  ["mode", "timestamps", "ownership", "links", "context", "xattr", "all"]

/-- The attributes that an option gives, or a complaint about the first word that is none. -/
def attributesOf (option text : String) : Except String (List String) :=
  (text.splitOn ",").mapM fun word =>
    match Options.chosen? attributes word with
    | some name => .ok name
    | none => .error s!"invalid argument {Naming.always word} for '--{option}'"

/-- What copies keep; the last word on each attribute counts. -/
def keptOf (o : Options) : Except String Kept :=
  o.given.foldlM (fun (k : Kept) g =>
    let with_ (names : List String) (modes : CopiedMode) (linked : Bool) : Kept :=
      let has (name : String) : Bool := names.contains name || names.contains "all"
      ⟨if has "mode" then modes else k.modes, if has "links" then linked else k.names⟩
    match g.1, g.2 with
    | "p", _ => .ok { k with modes := .kept }
    | "a", _ => .ok ⟨.kept, true⟩
    | "d", _ => .ok { k with names := true }
    | "preserve", none => .ok { k with modes := .kept }
    | "preserve", some text => do return with_ (← attributesOf g.1 text) .kept true
    | "no-preserve", some text => do return with_ (← attributesOf g.1 text) .fresh false
    | _, _ => .ok k) ⟨.usual, false⟩

def kindOf (o : Options) : CopyKind :=
  if o.has "l" then .secondName else if o.has "s" then .link else .contents

def table : OptionTable :=
  .of "abdfHilLnprst:uvxPRS:TZ" ["archive a", "attributes-only", "backup[=]", "copy-contents",
    "dereference L", "force f", "interactive i", "link l", "no-clobber n",
    "no-dereference P", "no-preserve=", "no-target-directory T", "one-file-system x", "parents",
    "path parents", "preserve[=]", "recursive r", "remove-destination", "sparse=", "reflink[=]",
    "strip-trailing-slashes", "suffix= S", "symbolic-link s", "target-directory= t", "update u",
    "verbose v"]

def withoutRepeats (c : Copy) (moves : List (String × String)) (p : Progress) :
    List (String × String) × Progress :=
  let (kept, _, p) := moves.foldl (fun (kept, seen, p) move =>
    match p.world.entryOf? move.1 with
    | some (l, e) =>
      if !isFolderEntry e ∧ c.backup = none ∧ seen.contains l then
        (kept, seen,
          p.warn s!"warning: source file {Naming.always move.1} specified more than once")
      else (move :: kept, l :: seen, p)
    | none => (move :: kept, seen, p)) (([] : List (String × String)), ([] : List Location), p)
  (kept.reverse, p)

/-- A file that is copied to its own name is copied to the name of its backup, if that is asked for
by force. -/
def besideItself (c : Copy) (forced : Bool) (w : World) (move : String × String) :
    Copy × String × String :=
  match c.backup, w.follow move.1 with
  | some (b, suffix), .ok (.file ..) =>
    if forced && move.1 = move.2 then
      ({ c with backup := none }, move.1, b.name suffix w move.2)
    else (c, move)
  | _, _ => (c, move)

def cp : Tool := .withOptions table 1 fun o job w =>
  let operands := if o.has "strip-trailing-slashes" then o.operands.map trimmed else o.operands
  let targets := Targets.read w (o.value? "t") (o.has "T") true operands
  match keptOf o, Backup.ofOptions o, targets with
  | .error message, _, _ => (Tool.misused job message 1, w)
  | _, .error message, _ => (Tool.misused job message 1, w)
  | _, _, .error (.words message) => (Tool.misused job message 1, w)
  | _, _, .error (.target message) => (Tool.failing job message 1, w)
  | .ok kept, .ok backup, .ok targets =>
    let recursive := o.hasAny ["r", "R", "a"]
    let kind := kindOf o
    let c : Copy :=
      { recursive
        following := followingOf o recursive kind
        kind
        overwriting := overwritingOf { o with given := o.given.filter fun g => g.1 ≠ "f" }
        verbose := o.has "v"
        removesFirst := o.has "remove-destination" || (kind ≠ .contents && o.has "f")
        removesNames := o.has "remove-destination" || kind ≠ .link
        emptyOnly := o.has "attributes-only"
        kept
        backup }
    let (moves, p) := withoutRepeats c targets.moves (.start job w)
    let fuel := w.files.entries.length + 2
    if o.has "parents" ∧ ¬ targets.inFolder then
      (Tool.misused job "with --parents, the destination must be a directory" 1, w)
    else
      let folder := (o.value? "t").getD (operands.getLast?.getD "")
      let s := moves.foldl (fun s move =>
        if o.has "parents" then
          let target := joined folder (trimmed move.1)
          copyAt c fuel true move.1 target
            { makeParents c folder move.1 s with top := (move.1, target), metItself := false }
        else
          let (c, move) := besideItself c (o.has "f" && !targets.inFolder) s.progress.world move
          copyAt c fuel true move.1 move.2 { s with top := move, metItself := false })
        ⟨p, [], [], [], ("", ""), false⟩
      s.progress.finish

end CommandShell.Copying
