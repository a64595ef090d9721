import CommandShell.Programs.Folders.Targets

/-!
# Moving

Files, links and folders get other names. An empty folder gives way to a folder, and a file to
whatever is no folder.
-/
namespace CommandShell.Moving
open NameText

/-- What happens where something stands already. -/
inductive Overwriting
  | always
  | never
  | asked
  deriving DecidableEq

structure Move where
  overwriting : Overwriting
  verbose : Bool
  backup : Option (Backup × String)

/-- How far moving has come: the locations that have been filled. -/
structure Moved where
  progress : Progress
  filled : List Location

def isFolderEntry : Entry → Bool
  | .folder _ => true
  | _ => false

def tell (m : Move) (source target : String) (kept : Option String) (p : Progress) : Progress :=
  if m.verbose then
    let more := match kept with
      | some name => s!" (backup: {Naming.always name})"
      | none => ""
    p.print s!"renamed {Naming.always source} -> {Naming.always target}{more}"
  else p

def stuck? (w : World) (source : String) (l : Location) (e : Entry) : Option FileFault :=
  if isFolderEntry e then
    if endsInDots source ∨ l = [] then some .busy
    else
      match w.sight (trimmed source) with
      | .ok (.link ..) => some .notFolder
      | _ => none
  else none

/-- Puts an entry at a location that is free, or gives way. -/
def put (m : Move) (source target : String) (l k : Location) (e : Entry) (kept : Option String)
    (s : Moved) : Moved :=
  let p := s.progress
  let what := s!"cannot move {Naming.always source} to {Naming.always target}"
  let failed (p : Progress) : Moved := { s with progress := p }
  match stuck? p.world source l e with
  | some f => failed (p.fault what f)
  | none =>
    if isFolderEntry e ∧ l <+: k then
      failed (p.complain
        s!"cannot move {Naming.always source} to a subdirectory of itself, {Naming.always target}")
    else if isFolderEntry e ∧ p.world.files.names k ≠ [] then failed (p.fault what .notEmpty)
    else if !isFolderEntry e ∧ endsInSlash target then failed (p.fault what .notFolder)
    else
      ⟨tell m source target kept (p.into (p.world.relocate l k)), k :: s.filled⟩

/-- Keeps what stands at a text under another name, if that is asked for. -/
def keep (m : Move) (target : String) (k : Location) (p : Progress) : Option String × Progress :=
  match m.backup with
  | none => (none, p)
  | some (b, suffix) =>
    let name := b.name suffix p.world target
    match p.world.locationOf? name with
    | some free => (some name, p.into (p.world.relocate k free))
    | none => (none, p)

def moveOne (m : Move) (s : Moved) (move : String × String) : Moved :=
  let (source, target) := move
  let p := s.progress
  let failed (p : Progress) : Moved := { s with progress := p }
  let what := s!"cannot move {Naming.always source} to {Naming.always target}"
  match p.world.sight source, p.world.entryOf? source with
  | .error f, _ => failed (p.fault s!"cannot stat {Naming.always source}" f)
  | _, none => failed (p.fault s!"cannot stat {Naming.always source}" .notFound)
  | _, some (l, e) =>
    match p.world.sight target, p.world.entryOf? target with
    | .error f, _ => failed (p.fault what f)
    | .ok (.free k), _ => put m source target l k e none s
    | _, none => failed (p.fault what .notFound)
    | _, some (k, there) =>
      let both := s!"{Naming.always source} and {Naming.always target}"
      let sameFile : Bool := match e, there with
        | .file f, .file g => f.identity == g.identity
        | _, _ => false
      if l = k then failed (p.complain s!"{both} are the same file")
      else if m.overwriting = .never then s
      else
        let (willing, p) :=
          if m.overwriting = .asked then p.ask s!"overwrite {Naming.always target}" else (true, p)
        if !willing then failed p
        else if isFolderEntry e ∧ ¬ isFolderEntry there then
          failed (p.complain (Targets.folderOverFile target source))
        else if !isFolderEntry e ∧ isFolderEntry there then
          failed
            (p.complain s!"cannot overwrite directory {Naming.always target} with non-directory")
        else if s.filled.contains k then
          failed (p.complain (Targets.justMade target source))
        else if sameFile ∧ m.backup = none then
          let p := p.into (p.world.discard l)
          failed (if m.verbose then p.print s!"removed {Naming.always source}" else p)
        else
          let (kept, p) := keep m target k p
          put m source target l k e kept { s with progress := p }

/-- What options say of things that stand in the way; the last of them counts. No file is older than
another one, so that nothing is brought up to date. -/
def overwritingOf (o : Options) : Overwriting :=
  match o.lastKey? ["f", "i", "n"] with
  | some "n" => .never
  | some "i" => if o.has "u" then .never else .asked
  | _ => if o.has "u" then .never else .always

def mv : Tool :=
  .withOptions (.of "bfint:uvS:TZ" ["backup[=]", "context Z", "force f", "interactive i",
    "no-clobber n", "no-target-directory T", "strip-trailing-slashes", "suffix= S",
    "target-directory= t", "update u", "verbose v"]) 1 fun o job w =>
    let operands := if o.has "strip-trailing-slashes" then o.operands.map trimmed else o.operands
    match Backup.ofOptions o, Targets.read w (o.value? "t") (o.has "T") true operands with
    | .error message, _ => (Tool.misused job message 1, w)
    | _, .error (.words message) => (Tool.misused job message 1, w)
    | _, .error (.target message) => (Tool.failing job message 1, w)
    | .ok backup, .ok targets =>
      let m : Move := ⟨overwritingOf o, o.has "v", backup⟩
      (targets.moves.foldl (moveOne m) ⟨.start job w, []⟩).progress.finish

end CommandShell.Moving
